/-
Cursors that outlive their menu.

A cursor keeps its place and whether it has offered the exit word, but no menu, so every call may pass
another one. Calls that pass one menu take what is ahead of the cursor there, name by name, and then
get nothing. Calls that pass any menus get names of the menu they pass, and at most once the exit word
from the cursor itself.

* `Cursor.replies`: what calls get;
* `Cursor.mem_ahead`: where a candidate ahead comes from;
* `Cursor.exitOffered_after`: the exit word counts as offered once a call has got it;
* `Cursor.replies_getElem?`, `Cursor.replies_replicate`: calls that pass any menus, and calls that pass
  one;
* `Cursor.offers_matching_names`: what a new cursor offers.
-/
import DaemonConsole.Proofs.Menu.Rounds

namespace DaemonConsole.Completion.Cursor

variable {c : Cursor} {m : Menu} {menus : List Menu} {name : String}

/-- What calls on a cursor get, each from the menu that it passes. -/
def replies (c : Cursor) (menus : List Menu) : List (Option String) :=
  Machine.answers next c menus

/-! ### One call -/

/-- A candidate ahead starts with the stem. It is a name of the menu, or the exit word if that is not
offered yet. -/
lemma mem_ahead (h : name ∈ c.ahead m) : Text.startsWith name c.stem = true ∧
    (name ∈ m.names ∨ name = exitWord ∧ c.exitOffered = false) := by
  rcases List.mem_append.mp h with hname | hexit
  · obtain ⟨hlisted, hstart⟩ := List.mem_filter.mp hname
    exact ⟨hstart, .inl (List.map_subset _ (List.drop_subset _ _) hlisted)⟩
  · split at hexit
    · next hoffer =>
        rw [List.mem_singleton.mp hexit]
        exact ⟨hoffer.2.1, .inr ⟨rfl, hoffer.1⟩⟩
    · cases hexit

/-- A call that gets the exit word marks it as offered, and no other call does. -/
lemma exitOffered_next (c : Cursor) (m : Menu) :
    (c.next m).2.exitOffered = (c.exitOffered || (c.next m).1 == some exitWord) := by
  rw [next]
  cases scan c.stem (m.commands.drop c.position) with
  | some found => rfl
  | none =>
      cases hoffer : !c.exitOffered && Text.startsWith exitWord c.stem with
      | true => simp
      | false => simp

/-! ### Calls one after another -/

/-- Calls keep the stem. -/
lemma stem_after (c : Cursor) (menus : List Menu) :
    (Machine.after next c menus).stem = c.stem := by
  induction menus generalizing c with
  | nil => rfl
  | cons m menus ih => rw [Machine.after_cons, ih, next_stem]

/-- Behind calls the exit word is offered if it was before, or if one of them has got it. -/
lemma exitOffered_after (c : Cursor) (menus : List Menu) :
    (Machine.after next c menus).exitOffered = true ↔
      c.exitOffered = true ∨ some exitWord ∈ c.replies menus := by
  induction menus generalizing c with
  | nil => simp [replies]
  | cons m menus ih =>
      rw [Machine.after_cons, ih, exitOffered_next, replies, replies, Machine.answers_cons,
        List.mem_cons, Bool.or_eq_true, beq_iff_eq, or_assoc, eq_comm (a := some exitWord)]

/-- A call gets the first candidate ahead of the cursor that the calls before it leave. -/
lemma replies_getElem? {k : Nat} (h : menus[k]? = some m) :
    (c.replies menus)[k]? = some ((Machine.after next c (menus.take k)).ahead m).head? := by
  rw [replies, Machine.answers_eq_map, List.getElem?_map, withPast_getElem?, h, Option.map_some,
    Option.map_some, next_fst]

/-- Calls that pass one menu get the candidates ahead in it, and nothing from then on. -/
lemma replies_replicate (c : Cursor) (m : Menu) (calls : Nat) :
    c.replies (List.replicate calls m) = (List.range calls).map ((c.ahead m)[·]?) := by
  have hstep : ∀ (c : Cursor), ∀ passed ∈ List.replicate calls m,
      (c.next passed).1 = (c.ahead m).head? ∧ (c.next passed).2.ahead m = (c.ahead m).tail := by
    intro c passed hpassed
    rw [List.eq_of_mem_replicate hpassed]
    exact c.next_spec m
  rw [replies, Machine.answers_eq_ahead hstep c, List.length_replicate]

/-! ### New cursors -/

/-- **A cursor offers the matching names**: over one menu a new cursor offers the names that start with
its stem, in the order of the menu and as often as they stand there, and then the exit word if it
starts with the stem and no command has its name. There are no more of them than commands but for the
exit word; calls get them one after another, and whatever calls come behind them get nothing.

Over any menus a call gets what starts with the stem and is a name of the menu that it passes, or the
exit word, which the cursor adds only if no call before has got it. -/
theorem offers_matching_names (stem : String) :
    (∀ m : Menu, (ofStem stem).remaining m = m.names.filter (Text.startsWith · stem) ++
      if Text.startsWith exitWord stem = true ∧ exitWord ∉ m.names then [exitWord] else []) ∧
    (∀ m, ((ofStem stem).remaining m).length ≤ m.size + 1) ∧
    (∀ m calls, (ofStem stem).replies (List.replicate calls m)
      = (List.range calls).map (((ofStem stem).remaining m)[·]?)) ∧
    ∀ (menus : List Menu) (k : Nat) (m : Menu) name, menus[k]? = some m →
      ((ofStem stem).replies menus)[k]? = some (some name) →
        Text.startsWith name stem = true ∧ (name ∈ m.names ∨ name = exitWord ∧
          ∀ i < k, ((ofStem stem).replies menus)[i]? ≠ some (some exitWord)) := by
  refine ⟨fun m => candidates_eq m stem, fun m => length_candidates_le m stem, fun m calls => ?_,
    fun menus k m name hmenu hreply => ?_⟩
  · rw [replies_replicate, remaining_eq_ahead]
  · rw [replies_getElem? hmenu, Option.some.injEq] at hreply
    obtain ⟨hstart, hsource⟩ := mem_ahead (List.mem_of_head? hreply)
    rw [stem_after] at hstart
    refine ⟨hstart, hsource.imp_right fun ⟨hname, hoffered⟩ => ⟨hname, fun i hi hearlier => ?_⟩⟩
    -- an exit word before would be marked at the cursor of the call
    have hmarked : (Machine.after next (ofStem stem) (menus.take k)).exitOffered = true := by
      rw [exitOffered_after, replies, Machine.answers_take, ← replies]
      exact .inr (List.mem_of_getElem? (by rw [List.getElem?_take_of_lt hi, hearlier]))
    rw [hoffered] at hmarked
    cases hmarked

/-- A cursor that gets the exit word from a menu does not add it in the next one. -/
theorem moved_cursor_offers :
    let first : Menu := ⟨[⟨0, "exit", ""⟩, ⟨1, "execute", ""⟩]⟩
    let second : Menu := ⟨[⟨0, "link", ""⟩, ⟨1, "exec", ""⟩]⟩
    (ofStem "ex").replies [first, second, second] = [some "exit", some "exec", none] ∧
      Text.startsWith "exec" "ex" = true ∧ "exec" ∈ second.names := by
  intro first second
  have hreplies : (ofStem "ex").replies [first, second, second]
      = [some "exit", some "exec", none] := by decide
  obtain ⟨hstart, hsource⟩ := (offers_matching_names "ex").2.2.2 [first, second, second] 1 second
    "exec" rfl (by rw [hreplies]; rfl)
  exact ⟨hreplies, hstart, hsource.resolve_right fun hexit => absurd hexit.1 (by decide)⟩

end DaemonConsole.Completion.Cursor
