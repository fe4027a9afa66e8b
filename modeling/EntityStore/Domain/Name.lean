import EntityStore.Domain.Direction
import EntityStore.Domain.Label

/-!
# Domain names

A domain name is a list of labels with points between them. Its characters may be written in several
ways; `ofText?` reads any of them and refuses what is no name.
-/

namespace EntityStore.Domain

/-- The parts of a list that `mark` separates. -/
def splitAt (mark : Nat) : List Nat → List (List Nat)
  | [] => [[]]
  | n :: rest =>
    match splitAt mark rest with
    | part :: parts => if n = mark then [] :: part :: parts else (n :: part) :: parts
    | [] => []

/-- The labels of a name. Every one keeps its direction when one is written from right to left. -/
def ofText? (text : List Char) : Option (List Label) :=
  (text.mapM fun c => mapped? c.toNat).bind fun mapped =>
    ((splitAt '.'.toNat (Text.compose mapped.flatten)).mapM Label.ofLetters?).filter fun labels =>
      !labels.any (·.letters.any turns) || labels.all fun label => keepsDirection label.letters

end EntityStore.Domain
