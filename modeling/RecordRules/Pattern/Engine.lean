/-!
# Engines for patterns

Patterns are the business of an engine, which is no part of the rules. It decides which texts are
patterns, in its own words where one is none, and where a pattern occurs. Whatever is said of
constraints, fields and records holds under every engine (`PatternEngine`); an engine to run them
with is `RecordRules.Pattern.engine`.
-/

namespace RecordRules

/-- An engine for patterns. -/
class PatternEngine where
  /-- What texts are compiled into. -/
  Pattern : Type
  /-- The pattern of a text, or what the engine says against the text. -/
  read : String → Except String Pattern
  /-- Whether a pattern occurs anywhere in a text. -/
  occursIn : Pattern → String → Bool

end RecordRules
