/-
  Sift.Builtin — the questions that have a name of their own, as in `is:unread`.
-/

import Sift.Node

namespace Sift

structure Builtin where
  name : String
  truth : Bool
  predicate : Predicate

namespace Builtin

def ofFlag (name : String) (flag : Flag) (truth : Bool) : Builtin := ⟨name, truth, .tag (.flag flag)⟩

def ofLocality (name : String) (l : Locality) : Builtin := ⟨name, true, .folder (.locality l) false⟩

def ofMe (fields : AddressFields) : Builtin := ⟨fields.meName, true, .me fields⟩

def all : List Builtin :=
  [ofFlag "unread" .unread true, ofFlag "read" .unread false,
    ofFlag "flagged" .flagged true, ofFlag "unflagged" .flagged false,
    ofFlag "sent" .sent true, ofFlag "received" .sent false,
    ofFlag "replied" .answered true, ofFlag "unreplied" .answered false,
    ofFlag "forwarded" .forwarded true, ofFlag "unforwarded" .forwarded false,
    ofFlag "draft" .draft true, ofFlag "invite" .invite true,
    ofLocality "anywhere" .anywhere, ofLocality "local" .own, ofLocality "remote" .foreign,
    ofMe ⟨false, true, false⟩, ofMe ⟨true, false, false⟩, ofMe ⟨false, false, true⟩,
    ofMe ⟨true, true, false⟩, ofMe ⟨false, true, true⟩, ofMe ⟨true, false, true⟩,
    ofMe ⟨true, true, true⟩]

def node (builtin : Builtin) : Node := ⟨.plain, builtin.truth, some builtin.name, builtin.predicate⟩

/-- Names count in either case, and blanks around them do not. -/
def read (name : String) : Except Fault Node :=
  let key := Text.lower (Text.trim name)
  match all.find? (·.name == key) with
  | some builtin => .ok builtin.node
  | none => .error (.notFound (.builtin name))

end Builtin

end Sift
