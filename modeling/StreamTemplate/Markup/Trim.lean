import StreamTemplate.Text.Blank

/-!
# White space around trimming tags

Spaces and tabs directly in front of `<%_` and directly behind `_%>` are no part of the template.
The operations work on any sequence whose elements carry a character, so that positions can travel
along.
-/

namespace StreamTemplate.Markup

variable {α : Type}

/-- Whether the characters begin with the delimiter that trims in front of itself. -/
def startsTrimOpen (char : α → Char) : List α → Bool
  | a :: b :: c :: _ => char a == '<' && char b == '%' && char c == '_'
  | _ => false

/-- Whether the characters begin with the delimiter that trims behind itself. -/
def startsTrimClose (char : α → Char) : List α → Bool
  | a :: b :: c :: _ => char a == '_' && char b == '%' && char c == '>'
  | _ => false

/-- Removes the spaces and tabs directly in front of `<%_`. -/
def trimBefore (char : α → Char) : List α → List α
  | [] => []
  | a :: rest =>
    if Text.isHorizontal (char a) &&
        startsTrimOpen char (rest.dropWhile fun b => Text.isHorizontal (char b)) then
      trimBefore char rest
    else a :: trimBefore char rest

/-- Removes the spaces and tabs directly behind `_%>`. `wait` counts the characters of the
delimiter still to pass; `trimming` holds once it has passed. -/
def trimAfter (char : α → Char) (wait : Nat) (trimming : Bool) : List α → List α
  | [] => []
  | a :: rest =>
    match wait with
    | wait + 1 => a :: trimAfter char wait (wait = 0) rest
    | 0 =>
      if trimming && Text.isHorizontal (char a) then trimAfter char 0 true rest
      else if startsTrimClose char (a :: rest) then a :: trimAfter char 2 false rest
      else a :: trimAfter char 0 false rest

/-- The sequence without the white space that belongs to trimming tags. -/
def trimTags (char : α → Char) (cs : List α) : List α :=
  trimAfter char 0 false (trimBefore char cs)

/-- The template text without the white space that belongs to trimming tags. -/
def preprocess (source : String) : String :=
  String.ofList (trimTags id source.toList)

end StreamTemplate.Markup
