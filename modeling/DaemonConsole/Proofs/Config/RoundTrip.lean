/-
Configurations survive being written.

What a configuration is written as decodes to it, field by field, so to decode what an object was
decoded to changes nothing. Members that say nothing new change nothing either: what decoding
depends on is only what is found under the keys of a record.

* `Config.ofJson_toJson`: a configuration is read back from what it is written as;
* `Schema`, `Schema.Gains`: the keys and the defaults of a record, and the objects of which one has
  a member more that says nothing new;
* `Config.Gains`: such a member in a configuration, in its console settings or in one of its layers;
* `Config.serialization_faithful`: both together.
-/
import DaemonConsole.Proofs.Config.Decoding
import DaemonConsole.Proofs.Config.WellFormed
import DaemonConsole.Proofs.Json.Written
import Mathlib.Logic.Relation

namespace DaemonConsole

/-! ### Single values -/

lemma Datum.ofJson_natural {n : Nat} (h : n < 0x10000000000000000) :
    ofJson (.integer n) = .integer n := by
  rw [ofJson, ofInteger, if_pos (by omega)]

lemma decodeNat_natural {n bound : Nat} {expected : Expected} (h : n < bound) :
    decodeNat bound expected (.integer n) = .ok n := by
  rw [decodeNat, if_pos (by omega), Int.toNat_natCast]

lemma decodeSize_toNat (n : UInt64) : decodeSize (.ofJson (.integer n.toNat)) = .ok n := by
  have hlt : n.toNat < UInt64.size := n.toNat_lt_size
  rw [Datum.ofJson_natural hlt, decodeSize, decodeNat_natural hlt]
  exact congrArg Except.ok UInt64.ofNat_toNat

lemma decodeLayerId_toNat (n : LayerId) : decodeLayerId (.ofJson (.integer n.toNat)) = .ok n := by
  have hlt : n.toNat < UInt32.size := n.toNat_lt_size
  rw [Datum.ofJson_natural (Nat.lt_trans hlt (by decide)), decodeLayerId, decodeNat_natural hlt]
  exact congrArg Except.ok UInt32.ofNat_toNat

lemma decodeOptionalText_written (expected : Expected) (o : Option String) :
    decodeOptionalText expected (.ofJson (.ofOptionalText o)) = .ok o := by
  cases o <;> rfl

/-- Canonical names are in lowercase. -/
lemma LayerKind.lowercase_name (kind : LayerKind) : Text.lowercase kind.name = kind.name := by
  rw [← String.toList_inj, Text.lowercase, String.toList_map]
  cases kind <;> decide

/-- A kind is found by its canonical name. -/
lemma LayerKind.parse?_name (kind : LayerKind) : parse? kind.name = some kind := by
  rw [parse?, lowercase_name]
  cases kind <;> rfl

lemma decodeKind_name (kind : LayerKind) : decodeKind (.ofJson (.text kind.name)) = .ok kind := by
  have htext : decodeText .text (.ofJson (.text kind.name)) = .ok kind.name := rfl
  rw [decodeKind, htext]
  simp only [bind, Except.bind, LayerKind.parse?_name]

/-! ### Written records -/

lemma ConsoleSettings.decode_toJson (c : ConsoleSettings) :
    ConsoleSettings.decode false (.ofJson c.toJson) = .ok c := by
  refine decode_object.mpr ⟨rfl, ?_, ?_⟩
  · exact decodeOptionalText_written .path c.historyFile
  · exact readField_some.trans (decodeSize_toNat c.historySize)

lemma LayerSettings.decode_toJson (l : LayerSettings) :
    LayerSettings.decode false (.ofJson l.toJson) = .ok l := by
  refine decode_object.mpr ⟨⟨_, rfl, ?_⟩, ⟨_, rfl, rfl⟩, ⟨_, rfl, ?_⟩, ?_, rfl⟩
  · exact decodeLayerId_toNat l.id
  · exact decodeKind_name l.kind
  · exact decodeOptionalText_written .text l.description

lemma decodeLayers_array (items : List Json) :
    decodeLayers false (.ofJson (.array items))
      = items.mapM fun item => LayerSettings.decode false (.ofJson item) := by
  rw [Datum.ofJson, decodeLayers, Datum.ofJsonItems_eq_map, List.mapM_map]
  rfl

lemma decodeLayers_toJson (layers : List LayerSettings) :
    decodeLayers false (.ofJson (.array (layers.map LayerSettings.toJson))) = .ok layers := by
  have hlayers : ∀ l ∈ layers, LayerSettings.decode false (.ofJson l.toJson) = .ok (id l) :=
    fun l _ => l.decode_toJson
  rw [decodeLayers_array, List.mapM_map]
  exact (mapM_eq_ok hlayers).trans (congrArg Except.ok layers.map_id)

/-- What a configuration is written as decodes to it. -/
lemma Config.ofJson_toJson (c : Config) : Config.ofJson c.toJson = .ok c := by
  refine decode_object.mpr ⟨?_, ?_⟩
  · exact c.console.decode_toJson
  · exact decodeLayers_toJson c.layers

lemma Json.plain_ofOptionalText (o : Option String) : Plain (.ofOptionalText o) := by
  cases o with
  | none => exact .null
  | some s => exact .text s

/-- A configuration is written without decimals. -/
lemma Config.plain_toJson (c : Config) : c.toJson.Plain := by
  have hconsole : c.console.toJson.Plain :=
    .object (by simp [Json.Plain.text, Json.Plain.integer, Json.plain_ofOptionalText])
  have hlayer : ∀ l : LayerSettings, l.toJson.Plain := fun l =>
    .object (by
      simp [Json.Plain.text, Json.Plain.integer, Json.Plain.bool, Json.plain_ofOptionalText])
  have hlayers : Json.Plain (.array (c.layers.map LayerSettings.toJson)) :=
    .array (by simp [hlayer])
  exact .object (by simp [hconsole, hlayers])

/-! ### Members that say nothing new -/

/-- What may be left out of an object, and what it has no field for. -/
structure Schema where
  /-- The keys of the fields. -/
  keys : List String
  /-- The optional fields and their defaults. -/
  defaults : List (String × Json)

namespace Schema

/-- The console settings. -/
def console : Schema where
  keys := ["product", "history_file", "history_size"]
  defaults := [("product", .text "stackd"), ("history_file", .null), ("history_size", .integer 100)]

/-- A layer. -/
def layer : Schema where
  keys := ["id", "name", "kind", "description", "enabled"]
  defaults := [("description", .null), ("enabled", .bool true)]

/-- A configuration. -/
def config : Schema where
  keys := ["console", "layers"]
  defaults := [("console", ConsoleSettings.toJson {}),
    ("layers", .array (defaultLayers.map LayerSettings.toJson))]

/-- A member that says nothing new: there is no field for it, or it spells out the default of an
optional field that is left out. -/
def Redundant (s : Schema) (members : List (String × Json)) (m : String × Json) : Prop :=
  m.1 ∉ s.keys ∨ m ∈ s.defaults ∧ m.1 ∉ members.map Prod.fst

/-- The members of an object, and these with one among them that says nothing new. -/
inductive Gains (s : Schema) : List (String × Json) → List (String × Json) → Prop
  | intro (before after : List (String × Json)) {m : String × Json} :
      s.Redundant (before ++ after) m → Gains s (before ++ after) (before ++ m :: after)

end Schema

namespace Datum

variable {before after members : List (String × Json)}

lemma found_eq_none {k : String} (h : k ∉ members.map Prod.fst) : found members k = none := by
  refine Option.map_eq_none_iff.mpr (List.lookup_eq_none_iff.mpr fun m hm => ?_)
  have hmem : m.1 ∈ members.map Prod.fst := List.mem_map_of_mem (List.mem_reverse.mp hm)
  simpa using fun heq : k = m.1 => h (heq ▸ hmem)

/-- What is found with a member in the middle. -/
lemma found_insert (key : String) (value : Json) (k : String) :
    found (before ++ (key, value) :: after) k
      = (found after k).or
          ((if k = key then some (ofJson value) else none).or (found before k)) := by
  have hcons : (key, value) :: after = [(key, value)] ++ after := rfl
  rw [found_append, hcons, found_append, found_singleton, Option.or_assoc]

/-- Such a member does not count under another key. -/
lemma found_insert_of_ne {key : String} {value : Json} {k : String} (h : k ≠ key) :
    found (before ++ (key, value) :: after) k = found (before ++ after) k := by
  rw [found_insert, if_neg h, Option.none_or, found_append]

/-- Under a new key it is found. -/
lemma found_insert_self {key : String} {value : Json}
    (h : key ∉ (before ++ after).map Prod.fst) :
    found (before ++ (key, value) :: after) key = some (ofJson value) := by
  have hafter : key ∉ after.map Prod.fst := fun hmem =>
    h (List.map_append ▸ List.mem_append_right _ hmem)
  rw [found_insert, if_pos rfl, found_eq_none hafter, Option.none_or, Option.some_or]

end Datum

namespace Schema.Gains

variable {s : Schema} {members members' : List (String × Json)} (h : s.Gains members members')
  {k : String} (hk : k ∈ s.keys)

include h hk

/-- What a record finds in an object that gains a member: the same, or the default of a field that
was left out. -/
lemma found_cases :
    Datum.found members' k = Datum.found members k ∨
      Datum.found members k = none ∧
        ∃ value, (k, value) ∈ s.defaults ∧ Datum.found members' k = some (.ofJson value) := by
  obtain @⟨before, after, ⟨key, value⟩, hnew⟩ := h
  by_cases hkey : k = key
  · subst hkey
    rcases hnew with hunknown | ⟨hdefault, habsent⟩
    · exact absurd hk hunknown
    · exact .inr ⟨Datum.found_eq_none habsent, value, hdefault, Datum.found_insert_self habsent⟩
  · exact .inl (Datum.found_insert_of_ne hkey)

/-- A field without a default is found as before. -/
lemma found_eq (hdefault : ∀ value, (k, value) ∉ s.defaults) :
    Datum.found members' k = Datum.found members k := by
  rcases found_cases h hk with heq | ⟨-, value, hvalue, -⟩
  · exact heq
  · exact absurd hvalue (hdefault value)

/-- A field with a default is read as before. -/
lemma readField_eq {α : Type} {decode : Datum → Except DecodeError α} {x : α}
    (hdefault : ∀ value, (k, value) ∈ s.defaults → decode (.ofJson value) = .ok x) :
    readField decode x (Datum.found members' k) = readField decode x (Datum.found members k) := by
  rcases found_cases h hk with heq | ⟨hnone, value, hvalue, hsome⟩
  · rw [heq]
  · rw [hnone, hsome, readField_some, readField_none, hdefault value hvalue]

end Schema.Gains

/-! ### Records that gain members -/

section Records

variable {members members' : List (String × Json)}

lemma ConsoleSettings.decode_gains (h : Schema.console.Gains members members')
    (c : ConsoleSettings) :
    ConsoleSettings.decode false (.ofJson (.object members')) = .ok c ↔
      ConsoleSettings.decode false (.ofJson (.object members)) = .ok c := by
  have hproduct : ∀ v, ("product", v) ∈ Schema.console.defaults →
      decodeText .text (.ofJson v) = .ok "stackd" := by
    simp [Schema.console, Datum.ofJson, decodeText]
  have hfile : ∀ v, ("history_file", v) ∈ Schema.console.defaults →
      decodeOptionalText .path (.ofJson v) = .ok none := by
    simp [Schema.console, Datum.ofJson, decodeOptionalText]
  have hsize : ∀ v, ("history_size", v) ∈ Schema.console.defaults →
      decodeSize (.ofJson v) = .ok 100 := by
    simpa [Schema.console] using decodeSize_toNat 100
  rw [decode_object, decode_object, h.readField_eq (by decide) hproduct,
    h.readField_eq (by decide) hfile, h.readField_eq (by decide) hsize]

lemma LayerSettings.decode_gains (h : Schema.layer.Gains members members') (l : LayerSettings) :
    LayerSettings.decode false (.ofJson (.object members')) = .ok l ↔
      LayerSettings.decode false (.ofJson (.object members)) = .ok l := by
  have hid : ∀ v, ("id", v) ∉ Schema.layer.defaults := by simp [Schema.layer]
  have hname : ∀ v, ("name", v) ∉ Schema.layer.defaults := by simp [Schema.layer]
  have hkind : ∀ v, ("kind", v) ∉ Schema.layer.defaults := by simp [Schema.layer]
  have hdescription : ∀ v, ("description", v) ∈ Schema.layer.defaults →
      decodeOptionalText .text (.ofJson v) = .ok none := by
    simp [Schema.layer, Datum.ofJson, decodeOptionalText]
  have henabled : ∀ v, ("enabled", v) ∈ Schema.layer.defaults →
      decodeBool (.ofJson v) = .ok true := by
    simp [Schema.layer, Datum.ofJson, decodeBool]
  rw [decode_object, decode_object, h.found_eq (by decide) hid, h.found_eq (by decide) hname,
    h.found_eq (by decide) hkind, h.readField_eq (by decide) hdescription,
    h.readField_eq (by decide) henabled]

lemma Config.decode_gains (h : Schema.config.Gains members members') (c : Config) :
    Config.decode false (.ofJson (.object members')) = .ok c ↔
      Config.decode false (.ofJson (.object members)) = .ok c := by
  have hconsole : ∀ v, ("console", v) ∈ Schema.config.defaults →
      ConsoleSettings.decode false (.ofJson v) = .ok {} := by
    simpa [Schema.config] using ConsoleSettings.decode_toJson {}
  have hlayers : ∀ v, ("layers", v) ∈ Schema.config.defaults →
      decodeLayers false (.ofJson v) = .ok defaultLayers := by
    simpa [Schema.config] using decodeLayers_toJson defaultLayers
  rw [decode_object, decode_object, h.readField_eq (by decide) hconsole,
    h.readField_eq (by decide) hlayers]

/-- A field whose value is decoded like another one is read like this one. -/
lemma readField_replace {α : Type} {decode : Datum → Except DecodeError α}
    {before after : List (String × Json)} {key : String} {v v' : Json}
    (h : ∀ a, decode (.ofJson v') = .ok a ↔ decode (.ofJson v) = .ok a) (x a : α) :
    readField decode x (Datum.found (before ++ (key, v') :: after) key) = .ok a ↔
      readField decode x (Datum.found (before ++ (key, v) :: after) key) = .ok a := by
  rw [Datum.found_insert, Datum.found_insert, if_pos rfl, if_pos rfl]
  cases Datum.found after key with
  | none => exact h a
  | some d => rfl

/-- A layer that is decoded like another one takes its place. -/
lemma decodeLayers_replace {front back : List Json} {v v' : Json}
    (h : ∀ l, LayerSettings.decode false (.ofJson v') = .ok l ↔
      LayerSettings.decode false (.ofJson v) = .ok l) (layers : List LayerSettings) :
    decodeLayers false (.ofJson (.array (front ++ v' :: back))) = .ok layers ↔
      decodeLayers false (.ofJson (.array (front ++ v :: back))) = .ok layers := by
  rw [decodeLayers_array, decodeLayers_array]
  simp only [List.mapM_append, List.mapM_cons, bind_eq_ok_iff, h]

end Records

/-! ### Configurations that gain members -/

namespace Config

/-- One object and another with a member more that says nothing new, in the configuration itself, in
its console settings or in one of its layers. -/
inductive Gains : Json → Json → Prop
  | top {members members' : List (String × Json)} :
      Schema.config.Gains members members' → Gains (.object members) (.object members')
  | console {before after members members' : List (String × Json)} :
      Schema.console.Gains members members' →
        Gains (.object (before ++ ("console", .object members) :: after))
          (.object (before ++ ("console", .object members') :: after))
  | layer {before after members members' : List (String × Json)} {front back : List Json} :
      Schema.layer.Gains members members' →
        Gains (.object (before ++ ("layers", .array (front ++ .object members :: back)) :: after))
          (.object (before ++ ("layers", .array (front ++ .object members' :: back)) :: after))

/-- Such a member changes nothing. -/
lemma Gains.ofJson_iff {j j' : Json} (h : Gains j j') (c : Config) :
    Config.ofJson j' = .ok c ↔ Config.ofJson j = .ok c := by
  cases h with
  | top h => exact Config.decode_gains h c
  | console h =>
      rw [ofJson, ofJson, decode_object, decode_object,
        readField_replace (ConsoleSettings.decode_gains h),
        Datum.found_insert_of_ne (k := "layers") (by decide),
        Datum.found_insert_of_ne (k := "layers") (by decide)]
  | layer h =>
      rw [ofJson, ofJson, decode_object, decode_object,
        readField_replace (decodeLayers_replace (LayerSettings.decode_gains h)),
        Datum.found_insert_of_ne (k := "console") (by decide),
        Datum.found_insert_of_ne (k := "console") (by decide)]

/-- Nor do any number of them, gained or lost. -/
lemma ofJson_iff_of_eqvGen {j j' : Json} (h : Relation.EqvGen Gains j j') (c : Config) :
    Config.ofJson j' = .ok c ↔ Config.ofJson j = .ok c := by
  induction h with
  | rel j j' h => exact h.ofJson_iff c
  | refl j => exact Iff.rfl
  | symm j j' _ ih => exact ih.symm
  | trans j m j' _ _ ih ih' => exact ih'.trans ih

/-- **Configurations survive being written.** Every configuration is read back from the text that it
is written as, and from the object in it. So what an object is decoded to is written as another one
that is decoded to the same. And two objects are decoded to the same if they differ in members that
say nothing new only. -/
theorem serialization_faithful :
    (∀ c : Config, Json.parse? c.toJson.write = some c.toJson ∧ Config.ofJson c.toJson = .ok c) ∧
    (∀ j : Json, ((Config.ofJson j).bind fun c => Config.ofJson c.toJson) = Config.ofJson j) ∧
    ∀ j j' : Json, Relation.EqvGen Gains j j' →
      ∀ c : Config, Config.ofJson j' = .ok c ↔ Config.ofJson j = .ok c := by
  refine ⟨fun c => ⟨Json.parse?_write c.plain_toJson, c.ofJson_toJson⟩, fun j => ?_,
    fun j j' h c => ofJson_iff_of_eqvGen h c⟩
  cases Config.ofJson j with
  | error e => rfl
  | ok c => exact c.ofJson_toJson

/-- A configuration of one layer that has the fields it needs and others behind them, its kind by an
alias. -/
def edgeWith (others : List (String × Json)) : Json :=
  .array [.object
    ([("id", .integer 7), ("name", .text "edge"), ("kind", .text "NetWork")] ++ others)]

/-- One member more in the layer, then one in the configuration. -/
lemma eqvGen_edge :
    Relation.EqvGen Gains (.object [("layers", edgeWith [])])
      (.object [("console", ConsoleSettings.toJson {}),
        ("layers", edgeWith [("note", .null)])]) := by
  have hlayer : Schema.layer.Gains
      [("id", .integer 7), ("name", .text "edge"), ("kind", .text "NetWork")]
      [("id", .integer 7), ("name", .text "edge"), ("kind", .text "NetWork"), ("note", .null)] :=
    .intro [("id", .integer 7), ("name", .text "edge"), ("kind", .text "NetWork")] []
      (.inl (by decide))
  have htop : Schema.config.Gains [("layers", edgeWith [("note", .null)])]
      [("console", ConsoleSettings.toJson {}), ("layers", edgeWith [("note", .null)])] :=
    .intro [] [("layers", edgeWith [("note", .null)])] (.inr ⟨List.mem_cons_self, by decide⟩)
  have hnoted : Gains (.object [("layers", edgeWith [])])
      (.object [("layers", edgeWith [("note", .null)])]) :=
    @Gains.layer [] [] _ _ [] [] hlayer
  exact .trans _ _ _ (.rel _ _ hnoted) (.rel _ _ (.top htop))

/-- What the first of them is decoded to. -/
lemma ofJson_edge :
    Config.ofJson (.object [("layers", edgeWith [])])
      = .ok { layers := [{ id := 7, name := "edge", kind := .net }] } := by
  have hlower : Text.lowercase "NetWork" = "network" := by
    rw [← String.toList_inj, Text.lowercase, String.toList_map]
    decide
  have hkind : decodeKind (.ofJson (.text "NetWork")) = .ok .net := by
    rw [Datum.ofJson, decodeKind, decodeText]
    simp only [bind, Except.bind, LayerKind.parse?, hlower]
  have hlayer : LayerSettings.decode false (.ofJson (.object
      [("id", .integer 7), ("name", .text "edge"), ("kind", .text "NetWork")]))
        = .ok { id := 7, name := "edge", kind := .net } :=
    LayerSettings.decode_object.mpr ⟨⟨_, rfl, rfl⟩, ⟨_, rfl, rfl⟩, ⟨_, rfl, hkind⟩, rfl, rfl⟩
  refine decode_object.mpr ⟨rfl, (decodeLayers_array _).trans ?_⟩
  rw [List.append_nil, List.mapM_cons, hlayer]
  rfl

/-- What both are decoded to, and what it is written as. -/
theorem edge_survives :
    ∃ c : Config, c.layers = [{ id := 7, name := "edge", kind := .net }] ∧
      Config.ofJson (.object [("layers", edgeWith [])]) = .ok c ∧
      Config.ofJson (.object [("console", ConsoleSettings.toJson {}),
        ("layers", edgeWith [("note", .null)])]) = .ok c ∧
      Config.ofJson c.toJson = .ok c :=
  ⟨_, rfl, ofJson_edge, (serialization_faithful.2.2 _ _ eqvGen_edge _).mpr ofJson_edge,
    (serialization_faithful.1 _).2⟩

end Config

end DaemonConsole
