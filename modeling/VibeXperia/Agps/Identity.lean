import VibeXperia.Agps.Clients
import Mathlib.Data.Set.Defs

namespace VibeXperia.Agps
open Lib

/-! ## Which requests come from one client -/

/-- A BIT client, whose address is a `char[16]`, or an ATL client. -/
def Subscriber.isAgpsClient : Subscriber → Prop
  | .bit _ mIPv6Addr => mIPv6Addr.length = 16
  | .atl .. => True
  | _ => False

def AgpsClient := { s : Subscriber // s.isAgpsClient }

def SameClient : Subscriber → Subscriber → Prop
  | .bit ID mIPv6Addr, .bit ID' mIPv6Addr' =>
      ID = ID' ∧ (ID = INADDR_NONE → mIPv6Addr = mIPv6Addr')
  | .atl ID _, .atl ID' _ => ID = ID'
  | _, _ => False

instance : DecidableRel SameClient
  | .bit .., .bit .. => inferInstanceAs (Decidable (_ ∧ (_ → _)))
  | .atl ID _, .atl ID' _ => inferInstanceAs (Decidable (ID = ID'))
  | .bit .., .atl .. | .bit .., .wifi .. | .bit .., .ds .. | .atl .., .bit .. | .atl .., .wifi ..
  | .atl .., .ds .. | .wifi .., _ | .ds .., _ => inferInstanceAs (Decidable False)

/-- What a request does to the entries, if each is addressed by its own client alone. -/
structure Identified (t : AgpsTransition) : Prop where
  addressed : ∀ r ∈ t.event.client, ∀ s ∈ t.before.mSubscribers,
    s.equals r = true ↔ SameClient s r
  separate : t.after.mSubscribers.Pairwise fun s s' => ¬ SameClient s s'
  entered : ∀ r, t.event = .subscribe r → ∃ s ∈ t.after.mSubscribers, SameClient s r
  removed : ∀ r, t.event = .unsubscribe r →
    t.after.mSubscribers = t.before.mSubscribers.filter fun s => ¬ SameClient s r

/-- Two addresses differ at a place that no zero byte stands before. -/
def differBeforeNul (a b : List UInt8) : Prop :=
  ∃ i : Nat, a[i]? ≠ b[i]? ∧ ∀ j < i, a[j]? ≠ some 0

/-- Two clients that the code can tell apart, or need not. -/
def Distinguished : Subscriber → Subscriber → Prop
  | .bit ID mIPv6Addr, .bit ID' mIPv6Addr' =>
      ID = INADDR_NONE → ID' = INADDR_NONE → mIPv6Addr ≠ mIPv6Addr' →
        differBeforeNul mIPv6Addr mIPv6Addr'
  | .bit ID _, .atl ID' _ | .atl ID _, .bit ID' _ => ID ≠ ID'
  | _, _ => True

/-- Every request of a run comes from one of `clients`. -/
def FromSet (clients : Set AgpsClient) (es : List AgpsMsg) : Prop :=
  ∀ e ∈ es, ∀ r ∈ e.client, ∃ c ∈ clients, c.val = r

end VibeXperia.Agps
