/-!
Painted text for terminals: a style sequence before the text and a reset after it. A reset inside
the text is followed by the style again, so that the paint goes on.
-/

namespace TaintGrep.Text

inductive Colour where
  | red
  | green
  | yellow
  | blue
  | cyan
  deriving DecidableEq, Repr

inductive Weight where
  | bold
  | dimmed
  deriving DecidableEq, Repr

structure Paint where
  weight : Option Weight := none
  colour : Option Colour := none
  deriving DecidableEq, Repr

def Colour.code : Colour → String
  | .red => "31"
  | .green => "32"
  | .yellow => "33"
  | .blue => "34"
  | .cyan => "36"

def Weight.code : Weight → String
  | .bold => "1"
  | .dimmed => "2"

namespace Paint

def bold : Paint := { weight := some .bold }

def dimmed : Paint := { weight := some .dimmed }

def plain (c : Colour) : Paint := { colour := some c }

def strong (c : Colour) : Paint := { weight := some .bold, colour := some c }

def codes (p : Paint) : List String :=
  (p.weight.map Weight.code).toList ++ (p.colour.map Colour.code).toList

def opening (p : Paint) : List Char :=
  ['\x1b', '['] ++ (";".intercalate p.codes).toList ++ ['m']

def reset : List Char := ['\x1b', '[', '0', 'm']

def reopen (again : List Char) : List Char → List Char
  | '\x1b' :: '[' :: '0' :: 'm' :: cs => reset ++ again ++ reopen again cs
  | c :: cs => c :: reopen again cs
  | [] => []

def apply (p : Paint) (on : Bool) (s : String) : String :=
  if on then String.ofList (p.opening ++ reopen p.opening s.toList ++ reset) else s

@[simp] theorem apply_false (p : Paint) (s : String) : p.apply false s = s := rfl

end Paint

end TaintGrep.Text
