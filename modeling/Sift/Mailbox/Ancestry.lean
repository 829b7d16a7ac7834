/-
  Sift.Mailbox.Ancestry — which folders lie beneath which, by the links from each folder to its
  parent.
-/

import Sift.Mailbox.Basic

namespace Sift.Mailbox

/-- The folders strictly beneath the one with the id `top`. -/
inductive Beneath (mailbox : Mailbox) (top : FolderId) : Folder → Prop
  | child {f : Folder} : f ∈ mailbox.folders → f.parent = some top → Beneath mailbox top f
  | deeper {f g : Folder} : Beneath mailbox top f → g ∈ mailbox.folders → g.parent = some f.id →
      Beneath mailbox top g

/-- The folder with the id `top` and those beneath it. -/
def Within (mailbox : Mailbox) (top : FolderId) (f : Folder) : Prop :=
  (f ∈ mailbox.folders ∧ f.id = top) ∨ mailbox.Beneath top f

/-- No folder is its own ancestor. -/
def Acyclic (mailbox : Mailbox) : Prop := ∀ f, ¬ mailbox.Beneath f.id f

end Sift.Mailbox
