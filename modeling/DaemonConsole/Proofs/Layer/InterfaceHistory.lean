/-
The settings of a run, told by its commands.

A host has the interfaces that it starts with. Each of their two settings is what the last command
about it made it, whatever was set elsewhere, and sizes stay within their bounds.

* `Interfaces.Turns`, `Interfaces.Sizes`: the commands about a setting of an interface;
* `Interfaces.execute_cases`: a successful command is a listing or changes the interface that it
  names;
* `Interfaces.Tells`: the settings of an interface behind a list of successful commands;
* `Interfaces.Keeps.execute`: a successful command keeps the settings to what the commands tell;
* `Interfaces.Follows`: all that the successful commands tell of the interfaces;
* `Interfaces.settings_after`: they do so after every run.
-/
import DaemonConsole.Proofs.Layer.Effects
import DaemonConsole.Proofs.Machine
import DaemonConsole.Proofs.Network.Printed
import DaemonConsole.Proofs.Text.Spelling

namespace DaemonConsole

namespace Interfaces

/-- A command, as the step of a machine. -/
def command (s : Interfaces) (i : Invocation) : Except LayerError String × Interfaces :=
  s.execute i.command i.args

variable {s next : Interfaces} {i : Invocation} {reply name named : String} {up : Bool} {mtu : Nat}

/-! ### Commands about a setting -/

/-- A command that brings an interface up or takes it down: one word, which is its name. -/
def Turns (i : Invocation) (name : String) (up : Bool) : Prop :=
  i.Calls menu (stateWord up) ∧ Text.words i.args = [name]

/-- A command that sets the size of an interface: two words, its name and one that spells the size. -/
def Sizes (i : Invocation) (name : String) (mtu : Nat) : Prop :=
  i.Calls menu "mtu" ∧ ∃ word, Text.words i.args = [name, word] ∧ Numeral.Spells word mtu

lemma calls_list : i.Calls menu "show" ↔ i.command = 0 :=
  Invocation.calls_iff rfl

lemma calls_turn : i.Calls menu (stateWord up) ↔ i.command = if up then 1 else 2 := by
  cases up with
  | true => exact Invocation.calls_iff rfl
  | false => exact Invocation.calls_iff rfl

lemma calls_size : i.Calls menu "mtu" ↔ i.command = 3 :=
  Invocation.calls_iff rfl

/-- A command that turns an interface turns no other one, -/
lemma Turns.eq_name (h : Turns i named up) (h' : ∃ up, Turns i name up) : name = named := by
  obtain ⟨_, -, hwords⟩ := h'
  exact (List.cons.inj (hwords.symm.trans h.2)).1

/-- and sets no size. -/
lemma Turns.not_sizes (h : Turns i named up) : ¬ ∃ mtu, Sizes i name mtu := by
  rintro ⟨_, -, _, hwords, -⟩
  cases h.2.symm.trans hwords

/-- A command that sets a size sets that of no other interface, -/
lemma Sizes.eq_name (h : Sizes i named mtu) (h' : ∃ mtu, Sizes i name mtu) : name = named := by
  obtain ⟨-, _, hwords, -⟩ := h
  obtain ⟨_, -, _, hwords', -⟩ := h'
  exact (List.cons.inj (hwords'.symm.trans hwords)).1

/-- and turns none. -/
lemma Sizes.not_turns (h : Sizes i named mtu) : ¬ ∃ up, Turns i name up := by
  obtain ⟨-, _, hwords, -⟩ := h
  rintro ⟨_, -, hwords'⟩
  cases hwords.symm.trans hwords'

/-! ### Successful commands -/

/-- A look-up after a change finds the changed settings under the name, and the others elsewhere. -/
lemma get?_modify (s : Interfaces) (named : String) (f : Interface → Interface) (name : String) :
    (s.modify named f).get? name
      = (s.get? name).map fun settings => if name = named then f settings else settings := by
  obtain ⟨entries⟩ := s
  rw [get?, get?, modify]
  induction entries with
  | nil => rfl
  | cons e entries ih =>
      rw [List.map_cons, List.lookup_cons, List.lookup_cons]
      cases hname : name == e.1 with
      | true => simp [beq_iff_eq.mp hname]
      | false => exact ih

/-- An interface is changed if there is one of the name. -/
lemma change_eq_ok_iff {f : Interface → Interface} {text : String} :
    s.change name f text = (.ok reply, next) ↔
      (∃ settings, s.get? name = some settings) ∧ reply = text ∧ next = s.modify name f := by
  rw [change]
  cases s.get? name with
  | none => simp
  | some settings => simp [eq_comm]

/-- An interface is turned if there is one of the name. -/
lemma execute_turn_iff (hcalls : i.Calls menu (stateWord up)) :
    s.execute i.command i.args = (.ok reply, next) ↔
      ∃ name, Turns i name up ∧ (∃ settings, s.get? name = some settings) ∧
        reply = name ++ " " ++ stateWord up ∧ next = s.modify name fun i => { i with up } := by
  have hrun : s.execute i.command i.args = s.setState up i.args := by
    rw [calls_turn.mp hcalls]
    cases up with
    | true => rfl
    | false => rfl
  rw [hrun]
  constructor
  · intro h
    rw [setState] at h
    split at h
    · next name hwords => exact ⟨name, ⟨hcalls, hwords⟩, change_eq_ok_iff.mp h⟩
    · cases h
  · rintro ⟨name, ⟨-, hwords⟩, h⟩
    simpa [setState, hwords] using change_eq_ok_iff.mpr h

/-- A size is set if it is within its bounds and there is an interface of the name. -/
lemma execute_size_iff (hcalls : i.Calls menu "mtu") :
    s.execute i.command i.args = (.ok reply, next) ↔
      ∃ name mtu, Sizes i name mtu ∧ (minMtu ≤ mtu ∧ mtu ≤ maxMtu) ∧
        (∃ settings, s.get? name = some settings) ∧ reply = name ++ " mtu " ++ toString mtu ∧
          next = s.modify name fun i => { i with mtu } := by
  have hrun : s.execute i.command i.args = s.setMtu i.args := by
    rw [calls_size.mp hcalls]
    rfl
  rw [hrun]
  constructor
  · intro h
    rw [setMtu] at h
    split at h
    · next name word hwords =>
        split at h
        · cases h
        · next mtu hread =>
            split at h
            · next hbounds =>
                have hspells := (Numeral.read?_eq_some_iff.mp hread).1
                exact ⟨name, mtu, ⟨hcalls, word, hwords, hspells⟩, hbounds, change_eq_ok_iff.mp h⟩
            · cases h
    · cases h
  · rintro ⟨name, mtu, ⟨-, word, hwords, hspells⟩, hbounds, h⟩
    have hlt : mtu < UInt32.size := Nat.lt_of_le_of_lt hbounds.2 (by decide)
    have hread := Numeral.read?_eq_some_iff.mpr ⟨hspells, hlt⟩
    simpa [setMtu, hwords, hread, hbounds] using change_eq_ok_iff.mpr h

/-- The interfaces are listed unless there are arguments. -/
lemma execute_list_iff (hcalls : i.Calls menu "show") :
    s.execute i.command i.args = (.ok reply, next) ↔
      Text.words i.args = [] ∧ reply = Text.joinLines (s.entries.map fun e => line e.1 e.2) ∧
        next = s := by
  have hrun : s.execute i.command i.args = s.list i.args := by
    rw [calls_list.mp hcalls]
    rfl
  rw [hrun]
  constructor
  · intro h
    rw [list] at h
    split at h
    · next hwords =>
        cases h
        exact ⟨hwords, rfl, rfl⟩
    · cases h
  · rintro ⟨hwords, rfl, rfl⟩
    rw [list, hwords]

/-- A command that succeeds lists the interfaces, which takes no arguments, or it changes the interface
that its first word names. -/
lemma execute_cases (h : s.execute i.command i.args = (.ok reply, next)) :
    (next = s ∧ Text.words i.args = []) ∨
      (∃ name up, Turns i name up ∧ next = s.modify name fun i => { i with up }) ∨
        ∃ name mtu, Sizes i name mtu ∧ (minMtu ≤ mtu ∧ mtu ≤ maxMtu) ∧
          next = s.modify name fun i => { i with mtu } := by
  by_cases hturn : ∃ up, i.Calls menu (stateWord up)
  · obtain ⟨up, hturn⟩ := hturn
    obtain ⟨name, hturns, -, -, rfl⟩ := (execute_turn_iff hturn).mp h
    exact .inr (.inl ⟨name, up, hturns, rfl⟩)
  · by_cases hsize : i.Calls menu "mtu"
    · obtain ⟨name, mtu, hsizes, hbounds, -, -, rfl⟩ := (execute_size_iff hsize).mp h
      exact .inr (.inr ⟨name, mtu, hsizes, hbounds, rfl⟩)
    · by_cases hlist : i.Calls menu "show"
      · obtain ⟨hwords, -, rfl⟩ := (execute_list_iff hlist).mp h
        exact .inl ⟨rfl, hwords⟩
      · rw [execute] at h
        split at h
        · next hid => exact absurd (calls_list.mpr (UInt32.toNat_inj.mp hid)) hlist
        · next hid => exact absurd ⟨true, calls_turn.mpr (UInt32.toNat_inj.mp hid)⟩ hturn
        · next hid => exact absurd ⟨false, calls_turn.mpr (UInt32.toNat_inj.mp hid)⟩ hturn
        · next hid => exact absurd (calls_size.mpr (UInt32.toNat_inj.mp hid)) hsize
        · cases h

/-! ### What is set -/

/-- The settings of an interface are the latest ones, the commands about it coming behind those that
it starts with, and its size is within the bounds. -/
structure Tells (past : List (Invocation × String)) (name : String) (first now : Interface) :
    Prop where
  up : Latest (fun e up => Turns e.1 name up) first.up past now.up
  mtu : Latest (fun e mtu => Sizes e.1 name mtu) first.mtu past now.mtu
  bounds : 68 ≤ now.mtu ∧ now.mtu ≤ 65535

variable {past : List (Invocation × String)} {first now : Interface}

lemma tells_initial (h : 68 ≤ first.mtu ∧ first.mtu ≤ 65535) : Tells [] name first first :=
  ⟨latest_nil, latest_nil, h⟩

/-- A command that turns an interface makes this its latest state. -/
lemma Tells.turn (h : Tells past name first now) (hturns : Turns i named up) :
    Tells (past ++ [(i, reply)]) name first (if name = named then { now with up } else now) := by
  have hmtu : Latest (fun e mtu => Sizes e.1 name mtu) first.mtu (past ++ [(i, reply)]) now.mtu :=
    latest_concat.mpr (.inr ⟨h.mtu, hturns.not_sizes⟩)
  split
  · next hname => exact ⟨latest_concat.mpr (.inl (hname ▸ hturns)), hmtu, h.bounds⟩
  · next hname =>
      exact ⟨latest_concat.mpr (.inr ⟨h.up, fun hany => hname (hturns.eq_name hany)⟩), hmtu, h.bounds⟩

/-- A command that sets a size makes this the latest one of the interface. -/
lemma Tells.size (h : Tells past name first now) (hsizes : Sizes i named mtu)
    (hbounds : minMtu ≤ mtu ∧ mtu ≤ maxMtu) :
    Tells (past ++ [(i, reply)]) name first (if name = named then { now with mtu } else now) := by
  have hup : Latest (fun e up => Turns e.1 name up) first.up (past ++ [(i, reply)]) now.up :=
    latest_concat.mpr (.inr ⟨h.up, hsizes.not_turns⟩)
  split
  · next hname => exact ⟨hup, latest_concat.mpr (.inl (hname ▸ hsizes)), hbounds⟩
  · next hname =>
      exact ⟨hup, latest_concat.mpr (.inr ⟨h.mtu, fun hany => hname (hsizes.eq_name hany)⟩), h.bounds⟩

/-- A command without arguments is about no setting. -/
lemma Tells.other (h : Tells past name first now) (hwords : Text.words i.args = []) :
    Tells (past ++ [(i, reply)]) name first now where
  up := latest_concat.mpr (.inr ⟨h.up, fun ⟨_, hturns⟩ => by cases hwords.symm.trans hturns.2⟩)
  mtu := by
    refine latest_concat.mpr (.inr ⟨h.mtu, ?_⟩)
    rintro ⟨_, -, _, hwords', -⟩
    cases hwords.symm.trans hwords'
  bounds := h.bounds

/-- There are two interfaces, and the commands tell their settings. -/
def Keeps (past : List (Invocation × String)) (s : Interfaces) : Prop :=
  ∃ eth lo, s.entries = [("eth0", eth), ("lo", lo)] ∧ Tells past "eth0" ⟨false, 1500⟩ eth ∧
    Tells past "lo" ⟨true, 65535⟩ lo

lemma keeps_initial : Keeps [] initial :=
  ⟨_, _, rfl, tells_initial (by decide), tells_initial (by decide)⟩

/-- A successful command keeps the settings to what the commands tell. -/
lemma Keeps.execute (hs : Keeps past s) (h : s.execute i.command i.args = (.ok reply, next)) :
    Keeps (past ++ [(i, reply)]) next := by
  obtain ⟨eth, lo, hentries, heth, hlo⟩ := hs
  rcases execute_cases h with ⟨rfl, hwords⟩ | ⟨name, up, hturns, rfl⟩ |
    ⟨name, mtu, hsizes, hbounds, rfl⟩
  · exact ⟨eth, lo, hentries, heth.other hwords, hlo.other hwords⟩
  · exact ⟨_, _, by rw [modify, hentries]; rfl, heth.turn hturns, hlo.turn hturns⟩
  · exact ⟨_, _, by rw [modify, hentries]; rfl, heth.size hsizes hbounds, hlo.size hsizes hbounds⟩

/-- So it is after every run. -/
lemma keeps_after (calls : List Invocation) :
    Keeps (Machine.successes command initial calls)
      (Machine.after command initial calls) :=
  Machine.successes_induction (fun s i => s.atomic_execute i.args i.command)
    (fun _ _ _ _ _ h hs => hs.execute h) keeps_initial calls

/-! ### What stays -/

/-- Changing an interface leaves what the change leaves of its settings, -/
lemma map_get?_modify {β : Type} {setting : Interface → β} {f : Interface → Interface}
    (hf : ∀ settings, setting (f settings) = setting settings) :
    ((s.modify named f).get? name).map setting = (s.get? name).map setting := by
  rw [get?_modify, Option.map_map]
  cases s.get? name with
  | none => rfl
  | some settings =>
      by_cases hname : name = named
      · simp [hname, hf]
      · simp [hname]

/-- and the other interfaces. -/
lemma get?_modify_of_ne {f : Interface → Interface} (hne : name ≠ named) :
    (s.modify named f).get? name = s.get? name := by
  simp [get?_modify, hne]

/-- A command that turns an interface changes no size, whether it succeeds or not, -/
lemma mtu_of_turn (hcalls : i.Calls menu (stateWord up)) (name : String) :
    ((command s i).2.get? name).map (·.mtu) = (s.get? name).map (·.mtu) := by
  refine (s.atomic_execute i.args i.command).snd
    (P := fun t : Interfaces => (t.get? name).map (·.mtu) = _) rfl fun reply next h => ?_
  obtain ⟨_, -, -, -, rfl⟩ := (execute_turn_iff hcalls).mp h
  exact map_get?_modify fun _ => rfl

/-- and one that sets a size turns no interface. -/
lemma up_of_size (hcalls : i.Calls menu "mtu") (name : String) :
    ((command s i).2.get? name).map (·.up) = (s.get? name).map (·.up) := by
  refine (s.atomic_execute i.args i.command).snd
    (P := fun t : Interfaces => (t.get? name).map (·.up) = _) rfl fun reply next h => ?_
  obtain ⟨_, _, -, -, -, -, rfl⟩ := (execute_size_iff hcalls).mp h
  exact map_get?_modify fun _ => rfl

/-- A command about one interface leaves the others. -/
lemma get?_of_ne {rest : List String} (hwords : Text.words i.args = named :: rest)
    (hne : name ≠ named) : (command s i).2.get? name = s.get? name := by
  refine (s.atomic_execute i.args i.command).snd (P := fun t : Interfaces => t.get? name = _) rfl
    fun reply next h => ?_
  rcases execute_cases h with ⟨-, hnil⟩ | ⟨_, _, ⟨-, hone⟩, rfl⟩ | ⟨_, _, ⟨-, _, htwo, -⟩, -, rfl⟩
  · cases hwords.symm.trans hnil
  · cases hwords.symm.trans hone
    exact get?_modify_of_ne hne
  · cases hwords.symm.trans htwo
    exact get?_modify_of_ne hne

/-! ### All that the commands tell -/

/-- The interfaces are found under two names. -/
lemma Keeps.exists_get?_iff (hs : Keeps past s) :
    (∃ settings, s.get? name = some settings) ↔ name = "eth0" ∨ name = "lo" := by
  obtain ⟨eth, lo, hentries, -⟩ := hs
  rw [get?, hentries, List.lookup_cons, List.lookup_cons]
  by_cases heth : name = "eth0"
  · simp [heth]
  · by_cases hlo : name = "lo"
    · simp [hlo]
    · simp [beq_eq_false_iff_ne.mpr heth, beq_eq_false_iff_ne.mpr hlo, heth, hlo]

/-- An interface is turned by its name. -/
lemma Keeps.turn_iff (hs : Keeps past s) (hcalls : i.Calls menu (stateWord up)) :
    (∃ reply next, s.execute i.command i.args = (.ok reply, next)) ↔
      ∃ name, (name = "eth0" ∨ name = "lo") ∧ Text.words i.args = [name] := by
  simp only [execute_turn_iff hcalls, hs.exists_get?_iff]
  constructor
  · rintro ⟨_, _, name, hturns, hname, -, -⟩
    exact ⟨name, hname, hturns.2⟩
  · rintro ⟨name, hname, hwords⟩
    exact ⟨_, _, name, ⟨hcalls, hwords⟩, hname, rfl, rfl⟩

/-- A size is set by the name of an interface and a number within the bounds. -/
lemma Keeps.size_iff (hs : Keeps past s) (hcalls : i.Calls menu "mtu") :
    (∃ reply next, s.execute i.command i.args = (.ok reply, next)) ↔
      ∃ name word mtu, (name = "eth0" ∨ name = "lo") ∧ Text.words i.args = [name, word] ∧
        Numeral.Spells word mtu ∧ 68 ≤ mtu ∧ mtu ≤ 65535 := by
  simp only [execute_size_iff hcalls, hs.exists_get?_iff]
  constructor
  · rintro ⟨_, _, name, mtu, ⟨-, word, hwords, hspells⟩, hbounds, hname, -, -⟩
    exact ⟨name, word, mtu, hname, hwords, hspells, hbounds⟩
  · rintro ⟨name, word, mtu, hname, hwords, hspells, hbounds⟩
    exact ⟨_, _, name, mtu, ⟨hcalls, word, hwords, hspells⟩, hbounds, hname, rfl, rfl⟩

/-- The name of an interface is one word, -/
lemma isWord_name (hname : name = "eth0" ∨ name = "lo") : Text.Word name := by
  rcases hname with rfl | rfl
  · exact .of_all (by decide) (by decide)
  · exact .of_all (by decide) (by decide)

/-- and so is the word for a state. -/
lemma isWord_stateWord (up : Bool) : Text.Word (stateWord up) := by
  cases up with
  | true => exact .of_all (by decide) (by decide)
  | false => exact .of_all (by decide) (by decide)

/-- The words of the line of an interface. -/
lemma words_line (hname : Text.Word name) (settings : Interface) :
    Text.words (line name settings)
      = [name, stateWord settings.up, "mtu", toString settings.mtu] := by
  have hmtu : Text.Word "mtu" := .of_all (by decide) (by decide)
  have hjoin : line name settings = Text.padRight 8 name ++ (" "
      ++ (Text.padRight 5 (stateWord settings.up) ++ (" " ++ ("mtu" ++ (" "
        ++ toString settings.mtu))))) := by
    simp [line, ← String.append_assoc]
  rw [hjoin, Text.words_padRight hname, Text.words_padRight (isWord_stateWord _),
    Text.words_space hmtu, (Numeral.isWord_toString _).words_eq]

/-- The line of an interface is one line. -/
lemma feed_not_mem_line (hname : Text.Word name) (settings : Interface) :
    '\n' ∉ (line name settings).toList := by
  intro hfeed
  simp only [line, String.toList_append, List.mem_append] at hfeed
  rcases hfeed with (((hfeed | hfeed) | hfeed) | hfeed) | hfeed
  · exact hname.feed_not_mem_padRight 8 hfeed
  · exact absurd hfeed (by decide)
  · exact (isWord_stateWord _).feed_not_mem_padRight 5 hfeed
  · exact absurd hfeed (by decide)
  · exact (Numeral.isWord_toString _).feed_not_mem hfeed

/-- A reply shows the interfaces in order, each on a line of its own with its name, its state and its
size. -/
structure Shows (s : Interfaces) (reply : String) : Prop where
  lines : Text.lines reply = s.entries.map fun e => line e.1 e.2
  words : (Text.lines reply).map Text.words
    = s.entries.map fun e => [e.1, stateWord e.2.up, "mtu", toString e.2.mtu]

/-- What is listed shows the interfaces. -/
lemma Keeps.shows (hs : Keeps past s) :
    Shows s (Text.joinLines (s.entries.map fun e => line e.1 e.2)) := by
  have hword : ∀ e ∈ s.entries, Text.Word e.1 := by
    obtain ⟨eth, lo, hentries, -⟩ := hs
    intro e he
    rw [hentries] at he
    rcases List.mem_pair.mp he with rfl | rfl
    · exact isWord_name (.inl rfl)
    · exact isWord_name (.inr rfl)
  have hne : s.entries ≠ [] := by
    obtain ⟨eth, lo, hentries, -⟩ := hs
    rw [hentries]
    exact List.cons_ne_nil _ _
  have hlines : Text.lines (Text.joinLines (s.entries.map fun e => line e.1 e.2))
      = s.entries.map fun e => line e.1 e.2 := by
    refine Text.lines_joinLines (by simpa using hne) fun l hl => ?_
    obtain ⟨e, he, rfl⟩ := List.mem_map.mp hl
    exact feed_not_mem_line (hword e he) e.2
  refine ⟨hlines, ?_⟩
  rw [hlines, List.map_map]
  exact List.map_congr_left fun e he => words_line (hword e he) e.2

/-- What the successful commands of a run tell of the interfaces that it leaves. -/
structure Follows (past : List (Invocation × String)) (s : Interfaces) : Prop where
  /-- There are two interfaces. The first is down at the start and the second one up, and the commands
  tell their settings from then on. -/
  settings : Keeps past s
  /-- They are shown in the order of their names. -/
  show_iff : ∀ i : Invocation, i.Calls menu "show" →
    ((∃ reply next, s.execute i.command i.args = (.ok reply, next)) ↔ Text.words i.args = [])
  shown : ∀ i : Invocation, i.Calls menu "show" → ∀ reply next,
    s.execute i.command i.args = (.ok reply, next) → Shows s reply ∧ next = s
  /-- An interface is turned by its name, and no size is changed by it. -/
  turn_iff : ∀ (i : Invocation) up, i.Calls menu (stateWord up) →
    ((∃ reply next, s.execute i.command i.args = (.ok reply, next)) ↔
      ∃ name, (name = "eth0" ∨ name = "lo") ∧ Text.words i.args = [name])
  mtu_of_turn : ∀ (i : Invocation) up, i.Calls menu (stateWord up) →
    ∀ name, ((command s i).2.get? name).map (·.mtu) = (s.get? name).map (·.mtu)
  /-- A size is set by the name of an interface and a number within the bounds, and no interface is
  turned by it. -/
  size_iff : ∀ i : Invocation, i.Calls menu "mtu" →
    ((∃ reply next, s.execute i.command i.args = (.ok reply, next)) ↔
      ∃ name word mtu, (name = "eth0" ∨ name = "lo") ∧ Text.words i.args = [name, word] ∧
        Numeral.Spells word mtu ∧ 68 ≤ mtu ∧ mtu ≤ 65535)
  up_of_size : ∀ i : Invocation, i.Calls menu "mtu" →
    ∀ name, ((command s i).2.get? name).map (·.up) = (s.get? name).map (·.up)
  /-- A command about one interface leaves the other. -/
  get?_of_ne : ∀ (i : Invocation) named rest, Text.words i.args = named :: rest →
    ∀ name, name ≠ named → (command s i).2.get? name = s.get? name

/-- **The interfaces follow their commands**: after every run of commands on a host as it starts, the
commands that succeeded tell its settings, which further commands succeed and what they leave, and
what is shown. -/
theorem settings_after (calls : List Invocation) :
    Follows (Machine.successes command initial calls)
      (Machine.after command initial calls) where
  settings := keeps_after calls
  show_iff _ hcalls := by
    simp only [execute_list_iff hcalls, exists_and_left, exists_eq, and_true]
  shown _ hcalls _ _ h := by
    obtain ⟨-, rfl, rfl⟩ := (execute_list_iff hcalls).mp h
    exact ⟨(keeps_after calls).shows, rfl⟩
  turn_iff _ _ hcalls := (keeps_after calls).turn_iff hcalls
  mtu_of_turn _ _ hcalls := mtu_of_turn hcalls
  size_iff _ hcalls := (keeps_after calls).size_iff hcalls
  up_of_size _ hcalls := up_of_size hcalls
  get?_of_ne _ _ _ hwords _ hne := get?_of_ne hwords hne

end Interfaces

end DaemonConsole
