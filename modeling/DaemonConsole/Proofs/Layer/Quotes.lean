/-
What a refusal quotes.

A layer that refuses a command quotes words of the arguments that it does not accept, or the name of
the command itself; everything else in the wording is fixed, or it is printed from what was read. So
the wording is one line.

* `LayerError.texts`: the texts that a cause holds;
* `LayerError.unbroken_message`: without breaks in these texts there is none in the wording;
* `Quotes`: an answer that quotes nothing but words of the arguments and some names;
* `Service.quotes_execute`: every answer of a layer quotes the arguments and names of its menu only;
* `Layer.unbroken_refusal`: the wording of every refusal is one line, whatever the arguments.
-/
import DaemonConsole.Layer.Basic
import DaemonConsole.Proofs.Network.Printed
import DaemonConsole.Proofs.Text.Breaks

namespace DaemonConsole

open Text (Unbroken)

/-! ### Texts of a cause -/

/-- The texts that a wrong form is told with. -/
def Usage.texts : Usage → List String
  | argumentsAfter command => [command]
  | badMtu word | badAddress word | badSubnet word | badGateway word | badPort word
  | badEndpoint word | badConnection word => [word]
  | _ => []

/-- The texts that a rejection is told with. -/
def Rejection.texts : Rejection → List String
  | noInterface name => [name]
  | _ => []

/-- The texts that a refusal is told with. -/
def LayerError.texts : LayerError → List String
  | unknownCommand _ => []
  | usage cause => cause.texts
  | rejected cause => cause.texts

/-! ### Wordings -/

lemma unbroken_toString (n : Nat) : Unbroken (toString n) :=
  (Numeral.isWord_toString n).unbroken

/-- A word in quotation marks breaks no line. -/
lemma unbroken_quoted {before word : String} (hbefore : Unbroken before) (hword : Unbroken word) :
    Unbroken (before ++ word ++ "'") :=
  (hbefore.append hword).append (by decide)

/-- A number between two texts breaks no line. -/
lemma unbroken_numbered {before after : String} (hbefore : Unbroken before) (n : Nat)
    (hafter : Unbroken after) : Unbroken (before ++ toString n ++ after) :=
  (hbefore.append (unbroken_toString n)).append hafter

lemma Usage.unbroken_message {cause : Usage} (h : ∀ t ∈ cause.texts, Unbroken t) :
    Unbroken cause.message := by
  cases cause with
  | argumentsAfter command =>
      exact (h command (List.mem_singleton_self _)).append (by decide)
  | badMtu word | badAddress word | badSubnet word | badGateway word | badPort word
  | badEndpoint word | badConnection word =>
      exact unbroken_quoted (by decide) (h word (List.mem_singleton_self _))
  | mtuOutOfRange least greatest =>
      exact (unbroken_numbered (by decide) least (by decide)).append (unbroken_toString greatest)
  | _ => exact (by decide)

lemma Rejection.unbroken_message {cause : Rejection} (h : ∀ t ∈ cause.texts, Unbroken t) :
    Unbroken cause.message := by
  cases cause with
  | noInterface name => exact unbroken_quoted (by decide) (h name (List.mem_singleton_self _))
  | unreachable address => exact (IpAddr.isWord_print address).unbroken.append (by decide)
  | routeExists subnet =>
      have hsubnet := (Subnet.isWord_print subnet).unbroken
      exact (Unbroken.append (by decide) hsubnet).append (by decide)
  | noRoute subnet => exact Unbroken.append (by decide) (Subnet.isWord_print subnet).unbroken
  | alreadyBound port | notBound port | alreadyListening port =>
      exact unbroken_numbered (by decide) port.toNat (by decide)
  | numbersExhausted => exact (by decide)
  | noConnection number => exact Unbroken.append (by decide) (unbroken_toString number.toNat)

/-- If the texts of a refusal hold no break, its wording holds none. -/
lemma LayerError.unbroken_message {fault : LayerError} (h : ∀ t ∈ fault.texts, Unbroken t) :
    Unbroken fault.message := by
  cases fault with
  | unknownCommand id => exact Unbroken.append (by decide) (unbroken_toString id.toNat)
  | usage cause => exact cause.unbroken_message h
  | rejected cause => exact cause.unbroken_message h

/-! ### Answers -/

/-- An answer that is a reply, or a refusal that quotes words of the arguments and names only. -/
def Quotes {α : Type} (names : List String) (args : String) : Except LayerError α → Prop
  | .ok _ => True
  | .error fault => ∀ t ∈ fault.texts, t ∈ Text.words args ∨ t ∈ names

section Quotes

variable {α : Type} {names : List String} {args : String} {fault : LayerError}

/-- A refusal without texts quotes nothing. -/
lemma quotes_nothing (h : fault.texts = []) :
    Quotes names args (.error fault : Except LayerError α) := by
  rw [Quotes, h]
  exact fun t ht => absurd ht List.not_mem_nil

/-- A refusal may quote a word of the arguments. -/
lemma quotes_word {word : String} (hword : word ∈ Text.words args) (h : fault.texts = [word]) :
    Quotes names args (.error fault : Except LayerError α) := by
  rw [Quotes, h]
  exact fun t ht => .inl (List.mem_singleton.mp ht ▸ hword)

/-- A refusal may quote a name. -/
lemma quotes_name {name : String} (hname : name ∈ names) (h : fault.texts = [name]) :
    Quotes names args (.error fault : Except LayerError α) := by
  rw [Quotes, h]
  exact fun t ht => .inr (List.mem_singleton.mp ht ▸ hname)

/-- The first word of given words. -/
lemma head_mem_words {word : String} {rest : List String} (h : Text.words args = word :: rest) :
    word ∈ Text.words args := by
  rw [h]
  exact List.mem_cons_self

/-- The second word of given words. -/
lemma second_mem_words {first word : String} {rest : List String}
    (h : Text.words args = first :: word :: rest) : word ∈ Text.words args := by
  rw [h]
  exact List.mem_cons_of_mem _ List.mem_cons_self

end Quotes

namespace Interfaces

variable (s : Interfaces) (args : String)

lemma quotes_change {name : String} (hname : name ∈ Text.words args) (f : Interface → Interface)
    (reply : String) : Quotes menu.names args (s.change name f reply).1 := by
  rw [change]
  split
  · exact quotes_word hname rfl
  · trivial

lemma quotes_setState (up : Bool) : Quotes menu.names args (s.setState up args).1 := by
  rw [setState]
  split
  · next hwords => exact s.quotes_change args (head_mem_words hwords) _ _
  · exact quotes_nothing rfl

lemma quotes_setMtu : Quotes menu.names args (s.setMtu args).1 := by
  rw [setMtu]
  split
  · next hwords =>
      split
      · exact quotes_word (second_mem_words hwords) rfl
      · split
        · exact s.quotes_change args (head_mem_words hwords) _ _
        · exact quotes_nothing rfl
  · exact quotes_nothing rfl

lemma quotes_list : Quotes menu.names args (s.list args).1 := by
  rw [list]
  split
  · trivial
  · exact quotes_name (by decide) rfl

lemma quotes_execute (id : CommandId) : Quotes menu.names args (s.execute id args).1 := by
  rw [execute]
  split
  · exact s.quotes_list args
  · exact s.quotes_setState args true
  · exact s.quotes_setState args false
  · exact s.quotes_setMtu args
  · exact quotes_nothing rfl

end Interfaces

namespace Routes

variable (s : Routes) (args : String)

lemma quotes_ping : Quotes menu.names args (s.ping args).1 := by
  rw [ping]
  split
  · next hwords =>
      split
      · exact quotes_word (head_mem_words hwords) rfl
      · split
        · trivial
        · split
          · trivial
          · exact quotes_nothing rfl
  · exact quotes_nothing rfl

lemma quotes_list : Quotes menu.names args (s.list args).1 := by
  rw [list]
  split
  · split
    · trivial
    · trivial
  · exact quotes_name (by decide) rfl

lemma quotes_add : Quotes menu.names args (s.add args).1 := by
  rw [add]
  split
  · next hwords =>
      split
      · exact quotes_word (head_mem_words hwords) rfl
      · exact quotes_word (second_mem_words hwords) rfl
      · split
        · exact quotes_nothing rfl
        · split
          · exact quotes_nothing rfl
          · trivial
  · exact quotes_nothing rfl

lemma quotes_remove : Quotes menu.names args (s.remove args).1 := by
  rw [remove]
  split
  · next hwords =>
      split
      · exact quotes_word (head_mem_words hwords) rfl
      · split
        · trivial
        · exact quotes_nothing rfl
  · exact quotes_nothing rfl

lemma quotes_execute (id : CommandId) : Quotes menu.names args (s.execute id args).1 := by
  rw [execute]
  split
  · exact s.quotes_ping args
  · exact s.quotes_list args
  · exact s.quotes_add args
  · exact s.quotes_remove args
  · exact quotes_nothing rfl

end Routes

/-- Arguments that name no port are refused with the only one of them, if there is one. -/
lemma Port.quotes_ofArguments (names : List String) (args : String) :
    Quotes names args (Port.ofArguments args) := by
  rw [ofArguments]
  split
  · next hwords =>
      split
      · exact quotes_word (head_mem_words hwords) rfl
      · split
        · exact quotes_word (head_mem_words hwords) rfl
        · trivial
  · exact quotes_nothing rfl

/-- What refuses the port of a command refuses the command. -/
lemma Port.quotes_of_error {α : Type} {args : String} {fault : LayerError}
    (h : Port.ofArguments args = .error fault) (names : List String) :
    Quotes names args (.error fault : Except LayerError α) := by
  have hport := Port.quotes_ofArguments names args
  rw [h] at hport
  exact hport

namespace Datagrams

variable (s : Datagrams) (args : String)

lemma quotes_bind : Quotes menu.names args (s.bind args).1 := by
  rw [bind]
  split
  · next hport => exact Port.quotes_of_error hport _
  · split
    · exact quotes_nothing rfl
    · trivial

lemma quotes_unbind : Quotes menu.names args (s.unbind args).1 := by
  rw [unbind]
  split
  · next hport => exact Port.quotes_of_error hport _
  · split
    · trivial
    · exact quotes_nothing rfl

lemma quotes_list : Quotes menu.names args (s.list args).1 := by
  rw [list]
  split
  · split
    · trivial
    · trivial
  · exact quotes_name (by decide) rfl

lemma quotes_execute (id : CommandId) : Quotes menu.names args (s.execute id args).1 := by
  rw [execute]
  split
  · exact s.quotes_bind args
  · exact s.quotes_unbind args
  · exact s.quotes_list args
  · exact quotes_nothing rfl

end Datagrams

namespace Streams

variable (s : Streams) (args : String)

lemma quotes_listen : Quotes menu.names args (s.listen args).1 := by
  rw [listen]
  split
  · next hport => exact Port.quotes_of_error hport _
  · split
    · exact quotes_nothing rfl
    · trivial

lemma quotes_connect : Quotes menu.names args (s.connect args).1 := by
  rw [connect]
  split
  · next hwords =>
      split
      · exact quotes_word (head_mem_words hwords) rfl
      · split
        · exact quotes_nothing rfl
        · split
          · exact quotes_nothing rfl
          · trivial
  · exact quotes_nothing rfl

lemma quotes_close : Quotes menu.names args (s.close args).1 := by
  rw [close]
  split
  · next hwords =>
      split
      · exact quotes_word (head_mem_words hwords) rfl
      · split
        · trivial
        · exact quotes_nothing rfl
  · exact quotes_nothing rfl

lemma quotes_list : Quotes menu.names args (s.list args).1 := by
  rw [list]
  split
  · split
    · trivial
    · trivial
  · exact quotes_name (by decide) rfl

lemma quotes_execute (id : CommandId) : Quotes menu.names args (s.execute id args).1 := by
  rw [execute]
  split
  · exact s.quotes_listen args
  · exact s.quotes_connect args
  · exact s.quotes_close args
  · exact s.quotes_list args
  · exact quotes_nothing rfl

end Streams

/-! ### Layers of any kind -/

/-- **A refusal quotes the operator word by word**: whatever a layer answers, the texts in it are
words of the arguments or names of its menu. -/
theorem Service.quotes_execute (s : Service) (id : CommandId) (args : String) :
    Quotes s.kind.menu.names args (s.execute id args).1 := by
  cases s with
  | link state => exact state.quotes_execute args id
  | net state => exact state.quotes_execute args id
  | udp state => exact state.quotes_execute args id
  | tcp state => exact state.quotes_execute args id

/-- The names and descriptions in the menu of a kind show something on one line. -/
lemma LayerKind.unbroken_menu (kind : LayerKind) :
    ∀ c ∈ kind.menu.commands, Unbroken c.name ∧ Unbroken c.description ∧ c.description ≠ "" := by
  cases kind <;> decide +kernel

lemma Layer.quotes_execute (l : Layer) (id : CommandId) (args : String) :
    Quotes l.menu.names args (l.execute id args).1 :=
  l.service.quotes_execute id args

/-- The wording of a refusal is one line, whatever the arguments. -/
lemma Layer.unbroken_refusal {l : Layer} {id : CommandId} {args : String} {fault : LayerError}
    (h : (l.execute id args).1 = .error fault) : Unbroken fault.message := by
  have hquotes := l.quotes_execute id args
  rw [h] at hquotes
  refine LayerError.unbroken_message fun t ht => ?_
  rcases hquotes t ht with hword | hname
  · exact (Text.word_of_mem_words hword).unbroken
  · obtain ⟨c, hc, rfl⟩ := List.mem_map.mp hname
    exact (l.service.kind.unbroken_menu c hc).1

end DaemonConsole
