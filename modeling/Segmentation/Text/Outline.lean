namespace Segmentation

inductive Outline where
  | line | block
  deriving DecidableEq

namespace Outline

def indent (text : String) : String :=
  String.ofList ("    ".toList ++ text.toList.flatMap fun c =>
    if c = '\n' then '\n' :: "    ".toList else [c])

/-- Puts `gap` inside the brackets on a line; a block ends each item with a comma instead. -/
def enclose (opening gap closing : String) (items : List String) : Outline → String
  | .line => opening ++ gap ++ ", ".intercalate items ++ gap ++ closing
  | .block => opening ++ "\n" ++ String.join (items.map (indent · ++ ",\n")) ++ closing

def record (o : Outline) (name : String) : List (String × String) → String
  | [] => name
  | fields => o.enclose (name ++ " \x7b") " " "\x7d" (fields.map fun (f, v) => f ++ ": " ++ v)

def tuple (o : Outline) (name : String) (items : List String) : String :=
  o.enclose (name ++ "(") "" ")" items

def list (o : Outline) : List String → String
  | [] => "[]"
  | items => o.enclose "[" "" "]" items

end Outline

end Segmentation
