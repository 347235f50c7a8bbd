import CloudAuth.Text.CodePoint

/-!
# Paths

File paths in normal form: empty and `.` components are dropped, `..` is kept, and exactly two leading
slashes are kept apart from one. A path without anything left is written `.`.
-/

namespace CloudAuth

/-- The code point between the components of a path. -/
def slash : CodePoint := .scalar '/'

/-- The component that stands for the directory itself. -/
def dot : Text := [.scalar '.']

/-- Where a path starts. -/
inductive PathRoot where
  /-- At the working directory. -/
  | relative
  /-- At the root, written with one slash. -/
  | single
  /-- At the root, written with two slashes. -/
  | double
  deriving DecidableEq, Repr

/-- The slashes that a root is written with. -/
def PathRoot.text : PathRoot → Text
  | relative => []
  | single => [slash]
  | double => [slash, slash]

/-- A path in normal form. -/
structure Path where
  /-- Where the path starts. -/
  root : PathRoot
  /-- The components after the root. -/
  components : List Text
  deriving DecidableEq, Repr

namespace Path

/-- The pieces of a list between its marks, of which the first is `piece` continued. -/
def piecesFrom {α : Type} [DecidableEq α] (mark : α) : (piece : List α) → List α → List (List α)
  | piece, [] => [piece]
  | piece, c :: rest =>
    if c = mark then piece :: piecesFrom mark [] rest else piecesFrom mark (piece ++ [c]) rest

/-- The pieces of a text between its slashes. -/
def pieces (t : Text) : List Text := piecesFrom slash [] t

/-- Whether a piece is dropped. -/
def isDropped (piece : Text) : Bool := piece == [] || piece == dot

/-- The root that the slashes at the start of a text stand for. -/
def rootOf (t : Text) : PathRoot :=
  match (t.takeWhile (· == slash)).length with
  | 0 => .relative
  | 2 => .double
  | _ => .single

/-- The normal form of a text. -/
def ofText (t : Text) : Path := ⟨rootOf t, (pieces t).filter (!isDropped ·)⟩

/-- The components with slashes between them. -/
def joined : List Text → Text
  | [] => []
  | [piece] => piece
  | piece :: rest => piece ++ slash :: joined rest

/-- A path as a text. -/
def text (p : Path) : Text :=
  if p.root = .relative ∧ p.components = [] then dot else p.root.text ++ joined p.components

end Path

end CloudAuth
