import TwinStack.Proofs.Execute
import TwinStack.Proofs.Rewrites

/-! The operations as rules on machines. An operation succeeds exactly when one of its rules
applies, and then it does what the rule says. -/
namespace TwinStack

namespace Operation

/-- The operation turns the machine `m` into another one, and sends execution where the effect
says. -/
inductive Performs (image : Image) (mode : Mode) (m : Machine) :
    Operation → Effect → Machine → Prop
  | brk : Performs image mode m .brk { flow := .halt } m
  | lit (v : Value) (hv : image.valueAt? (m.pc + 1) mode.width = some v) :
    Performs image mode m .lit { flow := .goto (m.pc + mode.width.size + 1) }
      (m.setStack mode.side ((m.stack mode.side).push v))
  | data (op : DataOp) (s : Stack)
    (h : op.Rewrites mode.keep mode.width (m.stack mode.side) s) :
    Performs image mode m (.data op) { flow := .goto (m.pc + 1) } (m.setStack mode.side s)
  | jmpByte (s : Stack) (offset : UInt8) (hw : mode.width = .byte)
    (hs : m.stack mode.side = s.pushByte offset) :
    Performs image mode m .jmp { flow := .goto (m.pc + offset.toNat + 1) }
      (m.setStack mode.side s)
  | jmpShort (s : Stack) (position : UInt16) (hw : mode.width = .short)
    (hs : m.stack mode.side = s.pushShort position) :
    Performs image mode m .jmp { flow := .goto position.toNat } (m.setStack mode.side s)
  | jsr (s : Stack) (offset : UInt8) (hs : m.wst = s.pushByte offset) :
    Performs image mode m .jsr { flow := .goto (m.pc + offset.toNat + 1) }
      { m with wst := s, rst := m.rst.pushShort (UInt16.ofNat (m.pc + 1)) }
  | jmi (offset : UInt16) (hv : image.valueAt? (m.pc + 1) .short = some (.short offset)) :
    Performs image mode m .jmi { flow := .goto (m.pc + offset.toNat) } m
  | jciSkip (s : Stack) (hs : m.wst = s.pushByte 0) :
    Performs image mode m .jci { flow := .goto (m.pc + 3) } { m with wst := s }
  | jciTake (s : Stack) (top : UInt8) (offset : UInt16) (hs : m.wst = s.pushByte top)
    (ht : top ≠ 0) (hv : image.valueAt? (m.pc + 1) .short = some (.short offset)) :
    Performs image mode m .jci { flow := .goto (m.pc + offset.toNat) } { m with wst := s }
  | jsi (offset : UInt16) (hv : image.valueAt? (m.pc + 1) .short = some (.short offset)) :
    Performs image mode m .jsi { flow := .goto (m.pc + offset.toNat) }
      { m with rst := m.rst.pushShort (UInt16.ofNat (m.pc + 3)) }
  | sth (s : Stack) (b : UInt8) (hs : m.wst = s.pushByte b) :
    Performs image mode m .sth { flow := .goto (m.pc + 1) }
      { m with wst := s, rst := m.rst.pushByte b }
  | deo (s : Stack) (value address : UInt8) (bus : Bus)
    (hs : m.wst = (s.pushByte value).pushByte address)
    (hb : m.bus.deliver? ⟨address, value⟩ = some bus) :
    Performs image mode m .deo { flow := .goto (m.pc + 1) } { m with wst := s, bus }
  | deoDropped (s : Stack) (value address : UInt8)
    (hs : m.wst = (s.pushByte value).pushByte address)
    (hb : m.bus.deliver? ⟨address, value⟩ = none) :
    Performs image mode m .deo
      { flow := .goto (m.pc + 1), dropped := some ⟨address, value⟩ } { m with wst := s }

variable {image : Image} {mode : Mode} {m m' : Machine} {operation : Operation} {effect : Effect}

theorem Performs.run_execute (h : operation.Performs image mode m effect m') :
    (operation.execute image mode).run m = .ok effect m' := by
  cases h with
  | brk => exact run_execute_brk image mode m
  | lit v hv => rw [run_execute_lit, hv]
  | data op s h =>
    obtain ⟨o, hr, rfl⟩ := h.run_apply
    rw [run_execute_data, hr]
  | jmpByte s offset hw hs =>
    rw [run_execute_jmp, hs, hw]
    rfl
  | jmpShort s position hw hs =>
    have hv : (s.pushShort position).valueAt? 0 .short = some (.short position) :=
      s.valueAt?_push (.short position)
    rw [run_execute_jmp, hs, hw, hv]
    rfl
  | jsr s offset hs =>
    rw [run_execute_jsr, hs]
    rfl
  | jmi offset hv =>
    rw [run_execute_jmi, hv]
    rfl
  | jciSkip s hs =>
    rw [run_execute_jci, hs]
    rfl
  | jciTake s top offset hs ht hv =>
    rw [run_execute_jci, hs, hv]
    exact if_neg ht
  | jsi offset hv =>
    rw [run_execute_jsi, hv]
    rfl
  | sth s b hs =>
    rw [run_execute_sth, hs]
    rfl
  | deo s value address bus hs hb =>
    rw [run_execute_deo, hs]
    simp only [Stack.pushByte, hb]
  | deoDropped s value address hs hb =>
    rw [run_execute_deo, hs]
    simp only [Stack.pushByte, hb]

end Operation

end TwinStack
