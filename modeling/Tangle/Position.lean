namespace Tangle

/-!
# Positions in a text

The line and the column of a byte offset, both counted from one.  Lines end at
line feeds, and columns count characters.
-/

/-- A line and a column. -/
structure Position where
  line : Nat
  column : Nat
  deriving Repr, DecidableEq

namespace Position

/-- The position some bytes behind a position at which some characters stand. -/
def after (position : Position) (bytes : Nat) : List Char → Position
  | [] => position
  | character :: rest =>
      if bytes = 0 then position
      else
        let next : Position :=
          if character = '\n' then ⟨position.line + 1, 1⟩
          else ⟨position.line, position.column + 1⟩
        next.after (bytes - character.utf8Size) rest

/-- The position of an offset in a source. -/
def ofOffset (source : String) (offset : Nat) : Position :=
  after ⟨1, 1⟩ offset source.toList

end Position

end Tangle
