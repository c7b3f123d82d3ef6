import FeatureFlags.Unicode.Letter

/-!
# Options of patterns

What the letters in parentheses ask for, such as `(?i)`, and what they let a pattern hold between
its parts: with the option `x`, blanks and comments are skipped. Letters behind a minus sign turn
their options off.

At the start, classes are those of the character database, and all other options are off.
-/

namespace FeatureFlags
namespace Pattern

structure Options where
  ignoreCase : Bool
  /-- lines have starts and ends of their own -/
  multiLine : Bool
  dotMatchesNewline : Bool
  /-- repetitions prefer fewer turns, and with a question mark more -/
  lazyFirst : Bool
  unicode : Bool
  /-- lines may end in a carriage return -/
  anyLineEnd : Bool
  spaced : Bool
deriving DecidableEq, Repr

namespace Options

def initial : Options := ⟨false, false, false, false, true, false, false⟩

def set? (o : Options) (value : Bool) (c : Char) : Option Options :=
  match c with
  | 'i' => some { o with ignoreCase := value }
  | 'm' => some { o with multiLine := value }
  | 's' => some { o with dotMatchesNewline := value }
  | 'U' => some { o with lazyFirst := value }
  | 'u' => some { o with unicode := value }
  | 'R' => some { o with anyLineEnd := value }
  | 'x' => some { o with spaced := value }
  | _ => none

/-- The letters of options up to a colon or a closing parenthesis: the options they set, what ends
them, and what follows. No letter may occur twice, nor the minus sign, which must not be the last.
-/
def read? (o : Options) (seen : List Char) (value : Bool) :
    List Char → Option (Options × List Char × Char × List Char)
  | [] => none
  | c :: cs =>
    if c = ':' ∨ c = ')' then if seen.head? = some '-' then none else some (o, seen, c, cs)
    else if seen.contains c then none
    else if c = '-' then read? o (c :: seen) false cs
    else
      match o.set? value c with
      | some o => read? o (c :: seen) value cs
      | none => none

end Options

/-! ### Blanks and comments -/

def dropBlanks (cs : List Char) : List Char := cs.dropWhile fun c => Unicode.isBlank c.toNat

/-- Drop blanks, and comments up to the end of their line. -/
def dropSpaced (inComment : Bool) : List Char → List Char
  | [] => []
  | c :: cs =>
    if inComment then dropSpaced (c != '\n') cs
    else if Unicode.isBlank c.toNat then dropSpaced false cs
    else if c = '#' then dropSpaced true cs
    else c :: cs

/-- Drop what options let a text hold between its parts. -/
def skip (o : Options) (cs : List Char) : List Char := if o.spaced then dropSpaced false cs else cs

end Pattern
end FeatureFlags
