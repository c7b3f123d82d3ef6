import FeatureFlags.Pattern.CharSet
import FeatureFlags.Unicode.Letter

/-!
# Patterns

A pattern describes a set of texts. Besides characters, sequences, choices and counted repetitions
it has assertions, which take up no text but hold only at certain places (`Assertion.holds`).

Whether a text matches does not depend on which groups count, nor on whether repetitions prefer more
turns or fewer. Both are kept all the same, since they decide how large a pattern counts.
-/

namespace FeatureFlags

/-- A place in a text: the characters before and after it. -/
structure Place where
  before : Option Char
  after : Option Char
deriving DecidableEq, Repr

namespace Pattern

inductive Assertion where
  | textStart
  | textEnd
  | lineStart
  | lineEnd
  /-- lines may end in a line feed, a carriage return or both -/
  | anyLineStart
  | anyLineEnd
  /-- between a word and what is no word; `ascii` words have letters of ASCII only -/
  | wordBoundary (ascii : Bool)
  | noWordBoundary (ascii : Bool)
  | wordStart (ascii : Bool)
  | wordEnd (ascii : Bool)
  | noWordBefore (ascii : Bool)
  | noWordAfter (ascii : Bool)
deriving DecidableEq, Repr

def isWord (ascii : Bool) : Option Char → Bool
  | some c => if ascii then c.isAlphanum || c == '_' else Unicode.wordPart.contains c.toNat
  | none => false

def Assertion.holds (pl : Place) : Assertion → Bool
  | textStart => pl.before.isNone
  | textEnd => pl.after.isNone
  | lineStart => pl.before.isNone || pl.before == some '\n'
  | lineEnd => pl.after.isNone || pl.after == some '\n'
  | anyLineStart =>
    pl.before.isNone || pl.before == some '\n' ||
      (pl.before == some '\r' && pl.after != some '\n')
  | anyLineEnd =>
    pl.after.isNone || pl.after == some '\r' || (pl.after == some '\n' && pl.before != some '\r')
  | wordBoundary ascii => isWord ascii pl.before != isWord ascii pl.after
  | noWordBoundary ascii => isWord ascii pl.before == isWord ascii pl.after
  | wordStart ascii => !isWord ascii pl.before && isWord ascii pl.after
  | wordEnd ascii => isWord ascii pl.before && !isWord ascii pl.after
  | noWordBefore ascii => !isWord ascii pl.before
  | noWordAfter ascii => !isWord ascii pl.after

end Pattern

inductive Pattern where
  | empty
  | literal (cs : List Char)
  | chars (s : Pattern.CharSet)
  | assertion (a : Pattern.Assertion)
  /-- a group that counts, with its number -/
  | group (index : Nat) (p : Pattern)
  | seq (p q : Pattern)
  | alt (p q : Pattern)
  /-- at least `least` times, and at most `most` times if that is given; a `lazy` repetition prefers
  fewer turns, which makes no difference to whether a text matches -/
  | times (p : Pattern) (least : Nat) (most : Option Nat) (lazy : Bool)
deriving DecidableEq, Repr

end FeatureFlags
