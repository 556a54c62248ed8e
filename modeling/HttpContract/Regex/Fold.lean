import HttpContract.Text.Case
import HttpContract.Text.CharClass

/-!
Characters that count as equal when a pattern does not tell small letters from capitals.
-/
namespace HttpContract.Regex

inductive Fold
  | exact
  | ascii
  | unicode
  deriving DecidableEq

def siblings : List (Nat × List Nat) := [
  (0x69, [0x131]), (0x73, [0x17f]), (0xb5, [0x3bc]), (0x131, [0x69]), (0x17f, [0x73]),
  (0x345, [0x3b9, 0x1fbe]), (0x390, [0x1fd3]), (0x3b0, [0x1fe3]), (0x3b2, [0x3d0]),
  (0x3b5, [0x3f5]), (0x3b8, [0x3d1]), (0x3b9, [0x345, 0x1fbe]), (0x3ba, [0x3f0]),
  (0x3bc, [0xb5]), (0x3c0, [0x3d6]), (0x3c1, [0x3f1]), (0x3c2, [0x3c3]), (0x3c3, [0x3c2]),
  (0x3c6, [0x3d5]), (0x3d0, [0x3b2]), (0x3d1, [0x3b8]), (0x3d5, [0x3c6]), (0x3d6, [0x3c0]),
  (0x3f0, [0x3ba]), (0x3f1, [0x3c1]), (0x3f5, [0x3b5]), (0x432, [0x1c80]), (0x434, [0x1c81]),
  (0x43e, [0x1c82]), (0x441, [0x1c83]), (0x442, [0x1c84, 0x1c85]), (0x44a, [0x1c86]),
  (0x463, [0x1c87]), (0x1c80, [0x432]), (0x1c81, [0x434]), (0x1c82, [0x43e]), (0x1c83, [0x441]),
  (0x1c84, [0x442, 0x1c85]), (0x1c85, [0x442, 0x1c84]), (0x1c86, [0x44a]), (0x1c87, [0x463]),
  (0x1c88, [0xa64b]), (0x1e61, [0x1e9b]), (0x1e9b, [0x1e61]), (0x1fbe, [0x345, 0x3b9]),
  (0x1fd3, [0x390]), (0x1fe3, [0x3b0]), (0xa64b, [0x1c88]), (0xfb05, [0xfb06]),
  (0xfb06, [0xfb05])]

def siblingsOf (c : Nat) : List Nat := (siblings.lookup c).getD []

def runMeets (lo hi : Nat) (r : Nat × Nat × Nat × Int) : Bool :=
  let start := max lo r.1
  let aligned := r.1 + (start - r.1 + r.2.2.1 - 1) / r.2.2.1 * r.2.2.1
  aligned ≤ min hi r.2.1

def upperCode (c : Nat) : Nat :=
  match Text.CaseTable.upperSpellings.find? fun r => r.1 == c with
  | some r => r.2.headD c
  | none => (Text.upperChar (Char.ofNat c)).toNat

def hasCase (fold : Fold) (lo hi : Nat) : Bool :=
  match fold with
  | .exact => false
  | .ascii => max lo 0x41 ≤ min hi 0x5a || max lo 0x61 ≤ min hi 0x7a
  | .unicode =>
    Text.CaseTable.lowerRuns.any (runMeets lo hi) || Text.CaseTable.upperRuns.any (runMeets lo hi)
      || Text.CaseTable.upperSpellings.any fun r => lo ≤ r.1 && r.1 ≤ hi

def lowerCode (fold : Fold) (c : Nat) : Nat :=
  match fold with
  | .exact => c
  | .ascii => if 0x41 ≤ c ∧ c ≤ 0x5a then c + 0x20 else c
  | .unicode => (Text.lowerChar (Char.ofNat c)).toNat

def lowerSources (fold : Fold) (c : Nat) : List Nat :=
  match fold with
  | .exact => [c]
  | .ascii => if 0x61 ≤ c ∧ c ≤ 0x7a then [c, c - 0x20] else [c]
  | .unicode =>
    let moved := Text.CaseTable.lowerRuns.toList.filterMap fun r =>
      let source := Int.toNat (c - r.2.2.2)
      if r.1 ≤ source ∧ source ≤ r.2.1 ∧ (source - r.1) % r.2.2.1 = 0 then some source else none
    if lowerCode .unicode c = c then c :: moved else moved

def foldSources (fold : Fold) (c : Nat) : List Nat :=
  match fold with
  | .unicode => lowerSources .unicode c ++ (siblingsOf c).flatMap (lowerSources .unicode)
  | _ => lowerSources fold c

end HttpContract.Regex
