/-
A channel that answers from tables.

A layer without a menu does not run, and a command without a preset answer succeeds with no output.
With a positive delay every command is in flight for a while before it is answered.
-/
import DaemonConsole.Channel.Basic
import DaemonConsole.Table

namespace DaemonConsole

instance : Ranked (UInt32 × UInt32) where
  rank p := p.1.toNat * UInt32.size + p.2.toNat
  rank_injective := by
    intro a b h
    simp only [UInt32.size] at h
    have ha := a.2.toNat_lt
    have hb := b.2.toNat_lt
    have h₁ : a.1.toNat = b.1.toNat := by omega
    have h₂ : a.2.toNat = b.2.toNat := by omega
    exact Prod.ext (UInt32.toNat_inj.mp h₁) (UInt32.toNat_inj.mp h₂)

/-- Prepared menus and answers. -/
structure Preset where
  menus : Table LayerId Menu
  answers : Table (LayerId × CommandId) (Except ExecError String)
  delay : Nat

namespace Preset

/-- A channel that knows no layers. -/
def empty : Preset := ⟨.empty, .empty, 0⟩

/-- The prepared menu of a layer. -/
def getMenu (p : Preset) (layer : LayerId) : Except LoadError Menu :=
  match p.menus.get? layer with
  | some menu => .ok menu
  | none => .error (.notRunning layer)

/-- The prepared answer to a command. -/
def answer (p : Preset) (layer : LayerId) (command : CommandId) : Except ExecError String :=
  (p.answers.get? (layer, command)).getD (.ok "")

instance : ControlChannel Preset where
  getMenu p layer := (p.getMenu layer, p)
  execute p layer command _ := (p.answer layer command, p)
  takesTime p := 0 < p.delay

end Preset

end DaemonConsole
