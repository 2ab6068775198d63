import TwinStack.Proofs.Console

/-! The dump of the stacks is unambiguous, whatever the program printed in front of it. A line names
its stack and goes on with blanks and digits, so the colon behind the name is the last one in the
output. Cutting there gives back the line's stack and all that stands before the line. -/
namespace TwinStack

/-- Where a byte stands for the last time, a text is cut in one way. -/
theorem eq_and_eq_of_append_cons_eq {xs xs' ys ys' : List UInt8} {b : UInt8} (hys : b ∉ ys)
    (hys' : b ∉ ys') (h : xs ++ b :: ys = xs' ++ b :: ys') : xs = xs' ∧ ys = ys' := by
  -- If one cut came before the other, the byte would stand behind the first cut again.
  have hcut {zs vs us : List UInt8} (hvs : b ∉ vs) (hz : b :: vs = zs ++ b :: us) :
      zs = [] ∧ vs = us := by
    cases zs with
    | nil => exact ⟨rfl, (List.cons.inj hz).2⟩
    | cons z zs =>
      have htail : vs = zs ++ b :: us := (List.cons.inj hz).2
      exact absurd (htail ▸ List.mem_append_right zs List.mem_cons_self) hvs
  obtain ⟨zs, hxs, hz⟩ | ⟨zs, hxs, hz⟩ := List.append_eq_append_iff.mp h
  · obtain ⟨rfl, hrest⟩ := hcut hys hz
    exact ⟨(hxs.trans (List.append_nil xs)).symm, hrest⟩
  · obtain ⟨rfl, hrest⟩ := hcut hys' hz
    exact ⟨hxs.trans (List.append_nil xs'), hrest.symm⟩

namespace Hex

theorem digit_inj {d d' : Nat} (hd : d < 16) (hd' : d' < 16) (h : digit d = digit d') : d = d' := by
  have hall : ∀ a < 16, ∀ b < 16, digit a = digit b → a = b := by decide
  exact hall d hd d' hd' h

theorem digit_ne_colon {d : Nat} (hd : d < 16) : digit d ≠ 0x3a := by
  revert d
  decide

theorem row_cons (b : UInt8) (bytes : List UInt8) :
    row (b :: bytes) =
      0x20 :: digit (b.toNat / 16) :: digit (b.toNat % 16) :: row bytes := rfl

theorem eq_of_digits_eq {b b' : UInt8} (hhigh : digit (b.toNat / 16) = digit (b'.toNat / 16))
    (hlow : digit (b.toNat % 16) = digit (b'.toNat % 16)) : b = b' := by
  have hdiv := digit_inj (div_lt_sixteen b) (div_lt_sixteen b') hhigh
  have hmod := digit_inj (mod_lt_sixteen b) (mod_lt_sixteen b') hlow
  apply UInt8.toNat_inj.mp
  rw [← Nat.div_add_mod b.toNat 16, hdiv, hmod, Nat.div_add_mod]

theorem row_inj {bytes bytes' : List UInt8} (h : row bytes = row bytes') : bytes = bytes' := by
  induction bytes generalizing bytes' with
  | nil =>
    cases bytes' with
    | nil => rfl
    | cons b' bytes' => cases h
  | cons b bytes ih =>
    cases bytes' with
    | nil => cases h
    | cons b' bytes' =>
      simp only [row_cons, List.cons.injEq, true_and] at h
      obtain ⟨hhigh, hlow, hrest⟩ := h
      rw [eq_of_digits_eq hhigh hlow, ih hrest]

theorem colon_notMem_row (bytes : List UInt8) : 0x3a ∉ row bytes := by
  induction bytes with
  | nil => exact List.not_mem_nil
  | cons b bytes ih =>
    have hhigh := digit_ne_colon (div_lt_sixteen b)
    have hlow := digit_ne_colon (mod_lt_sixteen b)
    rw [row_cons]
    simp [hhigh.symm, hlow.symm, ih]

end Hex

namespace CommandLine

/-- The line of a stack at the end of a text, cut at its colon. -/
theorem append_stackLine (c : List UInt8) (name : String) (s : Stack) :
    c ++ stackLine name s = (c ++ Text.utf8 name) ++ 0x3a :: Hex.row s.bytes ++ [0x0a] := by
  have hcolon : Text.utf8 ":" = [0x3a] := by decide
  rw [stackLine_eq, Text.utf8_append, hcolon]
  simp

/-- The line of a stack at the end of a text gives back the stack and what stands before it. -/
theorem append_stackLine_inj {c c' : List UInt8} (name : String) {s s' : Stack}
    (h : c ++ stackLine name s = c' ++ stackLine name s') : c = c' ∧ s = s' := by
  rw [append_stackLine, append_stackLine] at h
  have hline := List.append_cancel_right h
  obtain ⟨hfront, hrow⟩ := eq_and_eq_of_append_cons_eq (Hex.colon_notMem_row s.bytes)
    (Hex.colon_notMem_row s'.bytes) hline
  exact ⟨List.append_cancel_right hfront, Stack.ext_bytes (Hex.row_inj hrow)⟩

theorem append_dump_inj {c c' : List UInt8} {w r w' r' : Stack}
    (h : c ++ dump w r = c' ++ dump w' r') : c = c' ∧ w = w' ∧ r = r' := by
  rw [dump, dump, ← List.append_assoc, ← List.append_assoc] at h
  obtain ⟨hfront, hrst⟩ := append_stackLine_inj "rst" h
  obtain ⟨hconsole, hwst⟩ := append_stackLine_inj "wst" hfront
  exact ⟨hconsole, hwst, hrst⟩

/-- What is printed with the stacks determines the bytes written to the console and both stacks,
even if the program prints text that looks like a dump. -/
theorem dump_unambiguous (c c' : List UInt8) (w r w' r' : Stack) (e e' : Ending) :
    (c ++ dump w r = c' ++ dump w' r' ↔ c = c' ∧ w = w' ∧ r = r') ∧
    ((ended true e).stdout = (ended true e').stdout ↔
      written e.machine.bus writePort = written e'.machine.bus writePort ∧
        e.machine.wst = e'.machine.wst ∧ e.machine.rst = e'.machine.rst) := by
  rw [stdout_ended, stdout_ended, if_pos rfl, if_pos rfl]
  refine ⟨⟨append_dump_inj, ?_⟩, ⟨append_dump_inj, ?_⟩⟩
  · rintro ⟨rfl, rfl, rfl⟩
    rfl
  · rintro ⟨hc, hw, hr⟩
    rw [hc, hw, hr]

end CommandLine

end TwinStack
