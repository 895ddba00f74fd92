import VibeXperia.Gps.Engine

namespace VibeXperia.Gps
open Lib

/-! ## Deletions of aiding data -/

def flagUnion (flags : List GpsAidingData) : GpsAidingData := flags.foldr (· ||| ·) 0#16

def deletionRequested : EngineEvent → Option GpsAidingData
  | .call (.deleteAidingData flags) _ => some flags
  | _ => none

def deletionSent : LocMsg → Option GpsAidingData
  | .delAidData type => some type
  | _ => none

def deletionPassed : EngineEffect → Option GpsAidingData
  | .deleteAidingData flags => some flags
  | _ => none

/-- The flags that are still to be passed to the modem. -/
def outstandingFlags (eng : LocEng) : GpsAidingData :=
  eng.data.aidingDataForDeletion ||| flagUnion (eng.msgs.filterMap deletionSent)

/-- No deletion is deferred, and none is waiting for the thread of the engine. -/
structure NonePending (eng : LocEng) : Prop where
  deferred : eng.data.aidingDataForDeletion = 0
  queued : eng.msgs.filterMap deletionSent = []

/-- A request that is handled while others are deferred asks for their flags, too. -/
def deferredAsked (eng : LocEng) : EngineEvent → Bool
  | .proc _ =>
      (eng.msgs.head?.bind deletionSent).all fun type =>
        eng.data.aidingDataForDeletion &&& ~~~type == 0
  | .call .. | .report _ => true

end VibeXperia.Gps
