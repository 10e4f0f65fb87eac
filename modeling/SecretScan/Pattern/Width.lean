import SecretScan.Pattern.Basic
import SecretScan.Pattern.Error

/-!
# Widths

The least and the greatest length of the texts that a pattern matches. A
look-behind needs to know how far to go back, so its body must have one width;
`firstFault` finds the look-behind that has none.
-/

namespace SecretScan

/-- The least and the greatest length of what a pattern matches. -/
structure PatternWidth where
  least : Nat
  most : Nat
deriving DecidableEq, Repr

namespace PatternWidth

/-- Widths from here on are not told apart. -/
def limit : Nat := Nat.pow 2 64

/-- A width with both ends within the limit. -/
def clamp (w : PatternWidth) : PatternWidth :=
  ⟨min w.least limit, min w.most limit⟩

end PatternWidth

namespace Pattern

/-- The width of a pattern, given the widths of the groups it refers to. -/
def width (groups : List (Nat × PatternWidth)) : Pattern → PatternWidth
  | empty => ⟨0, 0⟩
  | one _ => ⟨1, 1⟩
  | anchor _ => ⟨0, 0⟩
  | seq p q =>
    let v := width groups p
    let w := width groups q
    PatternWidth.clamp ⟨v.least + w.least, v.most + w.most⟩
  | alt p q =>
    let v := width groups p
    let w := width groups q
    ⟨min v.least w.least, max v.most w.most⟩
  | times _ least most body =>
    let w := width groups body
    let most' :=
      match most with
      | some n => w.most * n
      | none => if w.most = 0 then 0 else PatternWidth.limit
    PatternWidth.clamp ⟨w.least * least, most'⟩
  | group _ body => width groups body
  | again _ index => (groups.lookup index).getD ⟨0, 0⟩
  | ahead .. => ⟨0, 0⟩
  | behind .. => ⟨0, 0⟩
  | atomic body => width groups body
  | ifGroup _ yes no =>
    let v := width groups yes
    let w := width groups no
    ⟨min v.least w.least, max v.most w.most⟩

/-- One pattern after the other. -/
def ofList : List Pattern → Pattern
  | [] => empty
  | [p] => p
  | p :: ps => seq p (ofList ps)

/-- The first of several patterns that succeeds. -/
def anyOf : List Pattern → Pattern
  | [] => empty
  | [p] => p
  | p :: ps => alt p (anyOf ps)

/-- The name under which a fault mentions a repetition. -/
def greedName : Greed → String
  | .greedy => "MAX_REPEAT"
  | .lazy => "MIN_REPEAT"
  | .possessive => "POSSESSIVE_REPEAT"

/-- The first fault, in reading order, that shows only in the finished pattern:
a look-behind whose width varies or is too large, or a repetition where the
pattern was declared a mere template. -/
def firstFault (groups : List (Nat × PatternWidth)) (template : Bool) :
    Pattern → Option PatternError
  | empty | one _ | anchor _ | again .. => none
  | seq p q | alt p q | ifGroup _ p q =>
    (firstFault groups template p).or (firstFault groups template q)
  | times greed _ _ body =>
    if template then some (.noRepeatsInTemplate (greedName greed))
    else firstFault groups template body
  | group _ body | atomic body | ahead _ body => firstFault groups template body
  | behind _ _ body =>
    let w := width groups body
    if Nat.pow 2 32 ≤ w.least then some .lookBehindTooFar
    else if w.least ≠ w.most then some .lookBehindWidth
    else firstFault groups template body

end Pattern

end SecretScan
