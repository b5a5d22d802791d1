import DocMarkup.Json.Basic

/-!
When two JSON values count as the same value: numbers and booleans by their numeric value, lists
item by item, and objects by their keys, whatever the order of their members.
-/

namespace DocMarkup.Json

/-- Whether two numbers or booleans have the same numeric value. -/
def sameNumber : Json → Json → Bool
  | .real x, .real y => x.same y
  | .real x, w => (int? w).any (x.toInt? == some ·)
  | v, .real y => (int? v).any (y.toInt? == some ·)
  | v, w => (int? v).any (int? w == some ·)
where
  int? : Json → Option Int
    | .bool b => some (if b then 1 else 0)
    | .int n => some n
    | _ => none

mutual

/-- Whether two values count as the same. -/
def same : Json → Json → Bool
  | .null, .null => true
  | .str s, .str t => s == t
  | .arr xs, .arr ys => sameItems xs ys
  | .obj ms, .obj ns => ms.length == ns.length && sameMembers ms ns
  | .bool a, w => sameNumber (.bool a) w
  | .int a, w => sameNumber (.int a) w
  | .real a, w => sameNumber (.real a) w
  | _, _ => false

def sameItems : List Json → List Json → Bool
  | [], [] => true
  | v :: vs, w :: ws => same v w && sameItems vs ws
  | _, _ => false

/-- Whether every listed member has its counterpart in the other object. -/
def sameMembers : List (String × Json) → List (String × Json) → Bool
  | [], _ => true
  | (key, v) :: ms, ns => (ns.lookup key).any (same v ·) && sameMembers ms ns

end

end DocMarkup.Json
