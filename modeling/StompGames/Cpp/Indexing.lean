import StompGames.Cpp.Strings
import Mathlib.Data.List.GetD

/-! The loops of the client that read a string by index, as they are written. -/
namespace StompGames.Cpp

open Imperative

variable {σ : Type}

/-- `s[i]` of a string. The zero character stands after the last. -/
def charAt (s : Text) (i : Nat) : Method CppException σ Char :=
  if i ≤ s.length then pure (s.getD i '\x00') else throw .unchecked

theorem charAt_of_le {s : Text} {i : Nat} (h : i ≤ s.length) (t : σ) :
    charAt s i t = (.ok (s.getD i '\x00'), t) := by
  rw [charAt, if_pos h]
  rfl

/-- The loop that `parseCommand` and `split` share, from the index `i` on. -/
def splitFrom (splitBy : Char) (input : Text) (len i : Nat) (res : List Text) (cur : Text) :
    Method CppException σ (List Text) :=
  if i < len then do
    let c ← charAt input i
    if c = splitBy then splitFrom splitBy input len (i + 1) (res ++ [cur]) []
    else splitFrom splitBy input len (i + 1) res (cur ++ [c])
  else pure (res ++ [cur])
termination_by len - i

/-- `parseCommand` with the length it is given. -/
def parseCommandAt (input : Text) (len : Nat) : Method CppException σ (List Text) :=
  splitFrom ' ' input len 0 [] []

/-- `split(input, splitBy)` with each access to the string at an index that is checked. -/
def splitAt (input : Text) (splitBy : Char) : Method CppException σ (List Text) :=
  splitFrom splitBy input input.length 0 [] []

/-- Up to the length of the string the loop only reads what is there. -/
theorem splitFrom_eq (splitBy : Char) (input : Text) {i : Nat} (h : i ≤ input.length)
    (res : List Text) (cur : Text) (s : σ) :
    splitFrom splitBy input input.length i res cur s =
      (.ok (res ++ splitLoop splitBy cur (input.drop i)), s) := by
  induction hLeft : input.length - i generalizing i res cur with
  | zero =>
      have hEnd : input.length ≤ i := by omega
      rw [splitFrom, if_neg (by omega), List.drop_eq_nil_of_le hEnd]
      rfl
  | succ left ih =>
      have hMore : i < input.length := by omega
      have hChar : input.getD i '\x00' = input[i] := List.getD_eq_getElem _ _ hMore
      rw [splitFrom, if_pos hMore, Method.bind_apply, charAt_of_le hMore.le, hChar,
        List.drop_eq_getElem_cons hMore, splitLoop]
      dsimp only
      by_cases hSame : input[i] = splitBy
      · rw [if_pos hSame, if_pos hSame, ih hMore _ _ (by omega), List.append_assoc]
        rfl
      · rw [if_neg hSame, if_neg hSame, ih hMore _ _ (by omega)]

theorem parseCommandAt_eq (input : Text) (s : σ) :
    parseCommandAt input input.length s = (.ok (parseCommand input), s) :=
  splitFrom_eq ' ' input (Nat.zero_le _) [] [] s

theorem splitAt_eq (input : Text) (splitBy : Char) (s : σ) :
    splitAt input splitBy s = (.ok (split input splitBy), s) :=
  splitFrom_eq splitBy input (Nat.zero_le _) [] [] s

/-- The scan for the colon in `handleLogin`. Only the string ends it. -/
def scanHost (hostInfo : Text) (i : Nat) (host : Text) : Method CppException σ Text :=
  if i ≤ hostInfo.length then do
    let c ← charAt hostInfo i
    if c ≠ ':' then scanHost hostInfo (i + 1) (host ++ [c]) else pure host
  else throw .unchecked
termination_by hostInfo.length + 1 - i

/-- Without a colon the scan goes on over the zero character and past it. -/
theorem scanHost_eq (hostInfo : Text) {i : Nat} (h : i ≤ hostInfo.length) (host : Text) (s : σ) :
    scanHost hostInfo i host s = if ':' ∈ hostInfo.drop i then
      (.ok (host ++ (hostInfo.drop i).takeWhile (· != ':')), s) else (.error .unchecked, s) := by
  induction hLeft : hostInfo.length - i generalizing i host with
  | zero =>
      obtain rfl : i = hostInfo.length := by omega
      have hZero : hostInfo.getD hostInfo.length '\x00' = '\x00' := by simp
      rw [scanHost, if_pos le_rfl, Method.bind_apply, charAt_of_le le_rfl, hZero,
        List.drop_length]
      dsimp only
      rw [if_pos (by decide), scanHost, if_neg (by omega), if_neg List.not_mem_nil]
      rfl
  | succ left ih =>
      have hMore : i < hostInfo.length := by omega
      have hChar : hostInfo.getD i '\x00' = hostInfo[i] := List.getD_eq_getElem _ _ hMore
      rw [scanHost, if_pos h, Method.bind_apply, charAt_of_le h, hChar,
        List.drop_eq_getElem_cons hMore]
      dsimp only
      by_cases hColon : hostInfo[i] = ':'
      · rw [if_neg (not_not.2 hColon), hColon]
        simp
      · have hMem : ':' ∈ hostInfo[i] :: hostInfo.drop (i + 1) ↔ ':' ∈ hostInfo.drop (i + 1) := by
          rw [List.mem_cons, or_iff_right (Ne.symm hColon)]
        have hTake : (hostInfo[i] :: hostInfo.drop (i + 1)).takeWhile (· != ':') =
            hostInfo[i] :: (hostInfo.drop (i + 1)).takeWhile (· != ':') := by
          rw [List.takeWhile_cons, if_pos (bne_iff_ne.2 hColon)]
        rw [if_pos hColon, ih hMore _ (by omega), hTake, List.append_assoc]
        simp only [hMem]
        rfl

end StompGames.Cpp
