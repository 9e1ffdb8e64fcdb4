/-
What decoding an object depends on.

An object is decoded from what is found under the keys of its record, and from nothing else: neither
the order of its members nor the members under other keys count.

* `ConsoleFields.Reads`, `LayerFields.Reads`, `Config.Reads`: what a record is after the fields that
  are found were read, one equation for each of its fields; `ConsoleFields.fieldByField` and the
  like: visits read just this;
* `ConsoleSettings.decode_object`, `LayerSettings.decode_object`, `Config.decode_object`: the
  records that an object is decoded to.
-/
import DaemonConsole.Proofs.Config.Fields

namespace DaemonConsole

lemma decodeSome_eq_ok_iff {α : Type} {decode : Datum → Except DecodeError α} {d : Datum}
    {o : Option α} : decodeSome decode d = .ok o ↔ ∃ a, decode d = .ok a ∧ some a = o :=
  map_eq_ok_iff

variable {members : List (String × Json)} {ignoreSurplus : Bool}

/-- The data of an object. -/
lemma Datum.ofJson_object :
    ofJson (.object members) = .table (sortFields (ofJsonMembers members)) := by
  rw [ofJson]

/-! ### Console settings -/

namespace ConsoleFields

/-- What the console settings are after the fields that are found were read. -/
def Reads (f : ConsoleFields) (found : String → Option Datum) (f' : ConsoleFields) : Prop :=
  readField (decodeSome (decodeText .text)) f.product (found "product") = .ok f'.product ∧
  readField (decodeSome (decodeOptionalText .path)) f.historyFile (found "history_file")
    = .ok f'.historyFile ∧
  readField (decodeSome decodeSize) f.historySize (found "history_size") = .ok f'.historySize

/-- The console settings are read field by field. -/
lemma fieldByField : FieldByField visit Reads where
  none_iff := by
    rintro ⟨p, h, s⟩ ⟨p', h', s'⟩
    simp [Reads]
  visit_iff := by
    rintro ⟨p, h, s⟩ ⟨key, v⟩ ⟨p', h', s'⟩
    simp only [visit, Reads, Datum.lookup_cons_ite, List.lookup_nil]
    split
    case h_4 hp hh hs => simp [pure_eq_ok_iff, Ne.symm hp, Ne.symm hh, Ne.symm hs]
    -- one of the three fields is set to what is decoded, and the others are kept
    all_goals grind [bind_eq_ok_iff, pure_eq_ok_iff, decodeSome_eq_ok_iff]
  or_iff := by
    intro f a b f' hapart
    simp only [Reads, readField_or (hapart _)]
    constructor
    · rintro ⟨⟨p, hp, hp'⟩, ⟨h, hh, hh'⟩, ⟨s, hs, hs'⟩⟩
      exact ⟨⟨p, h, s⟩, ⟨hp, hh, hs⟩, ⟨hp', hh', hs'⟩⟩
    · rintro ⟨m, ⟨hp, hh, hs⟩, ⟨hp', hh', hs'⟩⟩
      exact ⟨⟨_, hp, hp'⟩, ⟨_, hh, hh'⟩, ⟨_, hs, hs'⟩⟩

end ConsoleFields

/-- The console settings of an object. -/
lemma ConsoleSettings.decode_object {c : ConsoleSettings} :
    ConsoleSettings.decode ignoreSurplus (.ofJson (.object members)) = .ok c ↔
      readField (decodeText .text) "stackd" (Datum.found members "product") = .ok c.product ∧
      readField (decodeOptionalText .path) none (Datum.found members "history_file")
        = .ok c.historyFile ∧
      readField decodeSize 100 (Datum.found members "history_size") = .ok c.historySize := by
  have hfold := ConsoleFields.fieldByField.foldlM_object members {}
  rw [Datum.ofJson_object, decode, bind_eq_ok_iff]
  simp only [hfold, pure_eq_ok_iff]
  rw [← readField_getD, ← readField_getD, ← readField_getD]
  constructor
  · rintro ⟨f, ⟨hp, hh, hs⟩, rfl⟩
    exact ⟨⟨_, hp, rfl⟩, ⟨_, hh, rfl⟩, ⟨_, hs, rfl⟩⟩
  · rintro ⟨⟨p, hp, hp'⟩, ⟨h, hh, hh'⟩, ⟨s, hs, hs'⟩⟩
    refine ⟨⟨p, h, s⟩, ⟨hp, hh, hs⟩, ?_⟩
    rw [ConsoleFields.finish, hp', hh', hs']

/-! ### Layers -/

namespace LayerFields

/-- What the settings of a layer are after the fields that are found were read. -/
def Reads (f : LayerFields) (found : String → Option Datum) (f' : LayerFields) : Prop :=
  readField (decodeSome decodeLayerId) f.id (found "id") = .ok f'.id ∧
  readField (decodeSome (decodeText .text)) f.name (found "name") = .ok f'.name ∧
  readField (decodeSome decodeKind) f.kind (found "kind") = .ok f'.kind ∧
  readField (decodeSome (decodeOptionalText .text)) f.description (found "description")
    = .ok f'.description ∧
  readField (decodeSome decodeBool) f.enabled (found "enabled") = .ok f'.enabled

/-- So are the settings of a layer. -/
lemma fieldByField : FieldByField visit Reads where
  none_iff := by
    rintro ⟨i, n, k, d, e⟩ ⟨i', n', k', d', e'⟩
    simp [Reads]
  visit_iff := by
    rintro ⟨i, n, k, d, e⟩ ⟨key, v⟩ ⟨i', n', k', d', e'⟩
    simp only [visit, Reads, Datum.lookup_cons_ite, List.lookup_nil]
    split
    case h_6 hi hn hk hd he =>
      simp [pure_eq_ok_iff, Ne.symm hi, Ne.symm hn, Ne.symm hk, Ne.symm hd, Ne.symm he]
    all_goals grind [bind_eq_ok_iff, pure_eq_ok_iff, decodeSome_eq_ok_iff]
  or_iff := by
    intro f a b f' hapart
    simp only [Reads, readField_or (hapart _)]
    constructor
    · rintro ⟨⟨i, hi, hi'⟩, ⟨n, hn, hn'⟩, ⟨k, hk, hk'⟩, ⟨d, hd, hd'⟩, ⟨e, he, he'⟩⟩
      exact ⟨⟨i, n, k, d, e⟩, ⟨hi, hn, hk, hd, he⟩, ⟨hi', hn', hk', hd', he'⟩⟩
    · rintro ⟨m, ⟨hi, hn, hk, hd, he⟩, ⟨hi', hn', hk', hd', he'⟩⟩
      exact ⟨⟨_, hi, hi'⟩, ⟨_, hn, hn'⟩, ⟨_, hk, hk'⟩, ⟨_, hd, hd'⟩, ⟨_, he, he'⟩⟩

end LayerFields

/-- The settings of a layer of an object. -/
lemma LayerSettings.decode_object {l : LayerSettings} :
    LayerSettings.decode ignoreSurplus (.ofJson (.object members)) = .ok l ↔
      (∃ d, Datum.found members "id" = some d ∧ decodeLayerId d = .ok l.id) ∧
      (∃ d, Datum.found members "name" = some d ∧ decodeText .text d = .ok l.name) ∧
      (∃ d, Datum.found members "kind" = some d ∧ decodeKind d = .ok l.kind) ∧
      readField (decodeOptionalText .text) none (Datum.found members "description")
        = .ok l.description ∧
      readField decodeBool true (Datum.found members "enabled") = .ok l.enabled := by
  have hfold := LayerFields.fieldByField.foldlM_object members {}
  rw [Datum.ofJson_object, decode, bind_eq_ok_iff, ← readField_required "id",
    ← readField_required "name", ← readField_required "kind", ← readField_getD,
    ← readField_getD]
  simp only [hfold, LayerFields.finish, bind_eq_ok_iff, pure_eq_ok_iff]
  constructor
  · rintro ⟨f, ⟨hi, hn, hk, hd, he⟩, i, hi', n, hn', k, hk', rfl⟩
    exact ⟨⟨_, hi, hi'⟩, ⟨_, hn, hn'⟩, ⟨_, hk, hk'⟩, ⟨_, hd, rfl⟩, ⟨_, he, rfl⟩⟩
  · rintro ⟨⟨i, hi, hi'⟩, ⟨n, hn, hn'⟩, ⟨k, hk, hk'⟩, ⟨d, hd, hd'⟩, ⟨e, he, he'⟩⟩
    refine ⟨⟨i, n, k, d, e⟩, ⟨hi, hn, hk, hd, he⟩, _, hi', _, hn', _, hk', ?_⟩
    simp only [hd', he']

/-! ### Configurations -/

namespace Config

/-- What a configuration is after the fields that are found were read. -/
def Reads (ignoreSurplus : Bool) (c : Config) (found : String → Option Datum) (c' : Config) :
    Prop :=
  readField (ConsoleSettings.decode ignoreSurplus) c.console (found "console") = .ok c'.console ∧
  readField (decodeLayers ignoreSurplus) c.layers (found "layers") = .ok c'.layers

/-- So is a configuration. -/
lemma fieldByField : FieldByField (visit ignoreSurplus) (Reads ignoreSurplus) where
  none_iff := by
    rintro ⟨s, l⟩ ⟨s', l'⟩
    simp [Reads]
  visit_iff := by
    rintro ⟨s, l⟩ ⟨key, v⟩ ⟨s', l'⟩
    simp only [visit, Reads, Datum.lookup_cons_ite, List.lookup_nil]
    split
    case h_3 hs hl => simp [pure_eq_ok_iff, Ne.symm hs, Ne.symm hl]
    all_goals grind [bind_eq_ok_iff, pure_eq_ok_iff]
  or_iff := by
    intro c a b c' hapart
    simp only [Reads, readField_or (hapart _)]
    constructor
    · rintro ⟨⟨s, hs, hs'⟩, ⟨l, hl, hl'⟩⟩
      exact ⟨⟨s, l⟩, ⟨hs, hl⟩, ⟨hs', hl'⟩⟩
    · rintro ⟨m, ⟨hs, hl⟩, ⟨hs', hl'⟩⟩
      exact ⟨⟨_, hs, hs'⟩, ⟨_, hl, hl'⟩⟩

/-- The configuration of an object. -/
lemma decode_object {c : Config} :
    Config.decode ignoreSurplus (.ofJson (.object members)) = .ok c ↔
      readField (ConsoleSettings.decode ignoreSurplus) {} (Datum.found members "console")
        = .ok c.console ∧
      readField (decodeLayers ignoreSurplus) defaultLayers (Datum.found members "layers")
        = .ok c.layers := by
  rw [Datum.ofJson_object, decode]
  exact fieldByField.foldlM_object members {} c

end Config

end DaemonConsole
