/-
Ports as they are typed.

The transport layers read a port off arguments of one word, which spells a 16-bit number other than
zero.

* `Port.Reads`: a word that reads as a port; `Port.ofArguments_eq_ok_iff`: arguments of one such word;
* `Port.Spells`: a word that spells the number of a port; `Port.reads_iff_spells`,
  `Port.ofArguments_iff_spells`: these words are the ones that read as it.
-/
import DaemonConsole.Layer.Ports
import DaemonConsole.Proofs.Text.Spelling

namespace DaemonConsole

namespace Port

variable {word : String} {port : Port} {n : Nat}

/-- A word reads as a port if it is a 16-bit number other than zero. -/
def Reads (word : String) (port : Port) : Prop :=
  Numeral.readUInt16? word = some port ∧ port ≠ 0

/-- A port is read off arguments of one word. -/
lemma ofArguments_eq_ok_iff {args : String} :
    ofArguments args = .ok port ↔ ∃ word, Text.words args = [word] ∧ Reads word port := by
  constructor
  · intro h
    rw [ofArguments] at h
    split at h
    · next word hwords =>
        split at h
        · cases h
        · next hread =>
            split at h
            · cases h
            · next hport =>
                cases h
                exact ⟨word, hwords, hread, hport⟩
    · cases h
  · rintro ⟨word, hwords, hread, hport⟩
    simp [ofArguments, hwords, hread, hport]

/-- A word spells a port if it spells its number, which lies between 1 and 65535. -/
def Spells (word : String) (n : Nat) : Prop :=
  Numeral.Spells word n ∧ 1 ≤ n ∧ n ≤ 65535

/-- A word spells one port at most. -/
lemma Spells.unique {m : Nat} (hm : Spells word m) (hn : Spells word n) : m = n :=
  hm.1.unique hn.1

/-- What is spelled is the number of a port. -/
lemma Spells.exists_port (h : Spells word n) : ∃ port : Port, port.toNat = n :=
  ⟨UInt16.ofNat n, UInt16.toNat_ofNat_of_lt (Nat.lt_succ_of_le h.2.2)⟩

/-- A word reads as a port if it spells it. -/
lemma reads_iff_spells : Reads word port ↔ Spells word port.toNat := by
  have hnumber : Numeral.readUInt16? word = some port ↔ Numeral.Spells word port.toNat := by
    rw [Numeral.readUInt16?, Option.map_eq_some_iff]
    constructor
    · rintro ⟨n, hn, rfl⟩
      obtain ⟨hspells, hlt⟩ := Numeral.read?_eq_some_iff.mp hn
      exact (UInt16.toNat_ofNat_of_lt hlt).symm ▸ hspells
    · intro hspells
      exact ⟨port.toNat, Numeral.read?_eq_some_iff.mpr ⟨hspells, port.toNat_lt⟩, UInt16.ofNat_toNat⟩
  have hzero : port ≠ 0 ↔ 1 ≤ port.toNat ∧ port.toNat ≤ 65535 := by
    have hlt := port.toNat_lt
    have hnumber : port = 0 ↔ port.toNat = 0 := UInt16.toNat_inj.symm
    rw [ne_eq, hnumber]
    omega
  rw [Reads, hnumber, hzero, Spells]

/-- Arguments are read as the port that their only word spells. -/
lemma ofArguments_iff_spells {args : String} :
    ofArguments args = .ok port ↔ ∃ word, Text.words args = [word] ∧ Spells word port.toNat := by
  simp only [ofArguments_eq_ok_iff, reads_iff_spells]

end Port

end DaemonConsole
