import BatchSync.Proofs.Retry.Attempts

/-!
# What errors count as

A plugin's error is a root under contexts, with a chain of causes (`PluginError.links`). The engine looks
at it twice: at its root, to tell whether it is a failure that only passed through the plugin, and along
its chain, for its kind.

1. `PluginError.text_eq` ties the chain to the text of the error, which names every link of it.
2. `PluginError.kind_eq` finds the kind in the chain: the first link that the engine knows decides it.
3. `Failure.kind_within` carries the kind through layers of failed tasks and of plugins, nested in any
   order, and `RetryRun.acts_goOn_congr` the decisions of a policy with it.

`PluginError.classified` has it all, for every error of a plugin.
-/

namespace BatchSync

/-! ## The chain of causes -/

namespace KnownError

/-- The wording of a known error alone. -/
def message : KnownError → String
  | .failure f => f.message
  | .conversion e => e.message
  | .config e => e.message

end KnownError

/-- What caused a failure, what caused that, and so on. A plugin's error is not looked into. -/
def Failure.sources : Failure → List KnownError
  | .config e => [.config e]
  | .conversion e => [.conversion e]
  | .taskFailed _ cause => .failure cause :: cause.sources
  | _ => []

/-- What caused a known error, what caused that, and so on. -/
def KnownError.sources : KnownError → List KnownError
  | .failure f => f.sources
  | .conversion _ => []
  | .config _ => []

/-- The wording of the causes of a failure. -/
theorem Failure.causes_eq : ∀ f : Failure, f.causes = f.sources.map KnownError.message
  | .taskFailed _ cause => by
    rw [Failure.causes, Failure.causes_eq cause]
    rfl
  | .config _ | .conversion _ | .channelClosed | .taskHung _ _ _ | .attemptTimeout _
  | .attemptRejected _ | .attemptAbandoned | .invalidArgument _ | .errorLimitExceeded _ _ _
  | .plugin _ => rfl

theorem KnownError.chain_eq (e : KnownError) :
    e.chain = (e :: e.sources).map KnownError.message := by
  cases e with
  | failure f => exact congrArg (f.message :: ·) f.causes_eq
  | conversion e => rfl
  | config e => rfl

/-- An error in a chain of causes. -/
inductive ErrorLink where
  /-- A context, a message, or an error of the plugin's own. -/
  | foreign (text : String)
  /-- An error that the engine knows. -/
  | known (e : KnownError)

namespace ErrorLink

/-- The wording of an error in a chain. -/
def message : ErrorLink → String
  | .foreign text => text
  | .known e => e.message

/-- The error, if the engine knows it. -/
def known? : ErrorLink → Option KnownError
  | .foreign _ => none
  | .known e => some e

end ErrorLink

namespace PluginError

variable {a : PluginError}

/-- The contexts of an error, from the outermost in. -/
def contexts : PluginError → List String
  | .message _ contexts => contexts
  | .known _ contexts => contexts
  | .causedBy _ _ contexts => contexts

/-- The error that the contexts were added to. -/
def root : PluginError → ErrorLink
  | .message text _ => .foreign text
  | .known e _ => .known e
  | .causedBy text _ _ => .foreign text

/-- What caused the root, what caused that, and so on. -/
def sources : PluginError → List KnownError
  | .message _ _ => []
  | .known e _ => e.sources
  | .causedBy _ e _ => e :: e.sources

/-- The chain of an error: its contexts from the outermost in, its root, and what caused that. -/
def links (a : PluginError) : List ErrorLink :=
  a.contexts.map .foreign ++ a.root :: a.sources.map .known

/-- The first error in the chain that the engine knows. -/
def firstKnown? (a : PluginError) : Option KnownError := a.links.findSome? ErrorLink.known?

/-- The text of an error names its whole chain. -/
theorem text_eq (a : PluginError) : a.text = joinParts (a.links.map ErrorLink.message) := by
  have foreign : ∀ contexts : List String,
      (contexts.map ErrorLink.foreign).map ErrorLink.message = contexts := by
    intro contexts
    rw [List.map_map]
    exact List.map_id contexts
  have known : ∀ errors : List KnownError,
      (errors.map ErrorLink.known).map ErrorLink.message = errors.map KnownError.message := by
    intro errors
    rw [List.map_map]
    rfl
  rw [links, List.map_append, List.map_cons, foreign, known]
  cases a with
  | message text contexts => rfl
  | known e contexts => rw [text, e.chain_eq]; rfl
  | causedBy text e contexts => rw [PluginError.text, e.chain_eq]; rfl

/-- Contexts are passed over in the search for an error that the engine knows. -/
theorem firstKnown?_eq (a : PluginError) :
    a.firstKnown? = a.root.known?.or a.sources.head? := by
  have passed : ∀ contexts : List String,
      (contexts.map ErrorLink.foreign).findSome? ErrorLink.known? = none := by
    intro contexts
    rw [List.findSome?_eq_none_iff]
    intro link mem
    obtain ⟨context, -, rfl⟩ := List.mem_map.mp mem
    rfl
  rw [firstKnown?, links, List.findSome?_append, passed, Option.none_or, List.findSome?_cons]
  cases a.root with
  | known e => rfl
  | foreign text =>
    cases a.sources with
    | nil => rfl
    | cons e rest => rfl

/-- The kind of an error is that of the first error in its chain that the engine knows. -/
theorem kind_eq (a : PluginError) : a.kind = a.firstKnown?.elim .plugin KnownError.kind := by
  rw [firstKnown?_eq]
  cases a with
  | message text contexts => rfl
  | known e contexts => rfl
  | causedBy text e contexts => rfl

/-! ## Contexts -/

/-- An error under more contexts, the outermost first. -/
def inContexts (contexts : List String) (a : PluginError) : PluginError := contexts.foldr inContext a

@[simp] theorem root_inContext (context : String) (a : PluginError) :
    (a.inContext context).root = a.root := by
  cases a <;> rfl

@[simp] theorem sources_inContext (context : String) (a : PluginError) :
    (a.inContext context).sources = a.sources := by
  cases a <;> rfl

theorem root_inContexts (contexts : List String) (a : PluginError) :
    (a.inContexts contexts).root = a.root := by
  induction contexts with
  | nil => rfl
  | cons context rest ih => exact (root_inContext ..).trans ih

theorem sources_inContexts (contexts : List String) (a : PluginError) :
    (a.inContexts contexts).sources = a.sources := by
  induction contexts with
  | nil => rfl
  | cons context rest ih => exact (sources_inContext ..).trans ih

/-- Contexts do not hide an error that the engine knows. -/
theorem kind_inContexts (contexts : List String) (a : PluginError) :
    (a.inContexts contexts).kind = a.kind := by
  rw [kind_eq, kind_eq, firstKnown?_eq, firstKnown?_eq, root_inContexts, sources_inContexts]

end PluginError

namespace Failure

/-! ## Failures that come from plugins -/

variable {a : PluginError} {f : Failure}

theorem ofPlugin_of_root (root : a.root = .known (.failure f)) : ofPlugin a = f := by
  cases a with
  | message text contexts => cases root
  | known e contexts => cases root; rfl
  | causedBy text e contexts => cases root

theorem ofPlugin_of_root_ne (root : ∀ f, a.root ≠ .known (.failure f)) :
    ofPlugin a = .plugin a := by
  cases a with
  | message text contexts => rfl
  | known e contexts =>
    cases e with
    | failure f => exact absurd rfl (root f)
    | conversion e => rfl
    | config e => rfl
  | causedBy text e contexts => rfl

/-- A failure has the kind of the error that it comes from, whether it only passed through the plugin
or not. -/
theorem kind_ofPlugin (a : PluginError) : (ofPlugin a).kind = a.kind := by
  by_cases passed : ∃ f, a.root = .known (.failure f)
  · obtain ⟨f, root⟩ := passed
    rw [ofPlugin_of_root root, PluginError.kind_eq, PluginError.firstKnown?_eq, root]
    rfl
  · rw [ofPlugin_of_root_ne (not_exists.mp passed)]
    rfl

/-- A failure that passes through a plugin comes out as it was. -/
theorem ofPlugin_inContexts (contexts : List String) (f : Failure) :
    ofPlugin ((PluginError.known (.failure f) []).inContexts contexts) = f :=
  ofPlugin_of_root (PluginError.root_inContexts contexts _)

/-! ## Layers -/

/-- What a failure can be wrapped in on its way. -/
inductive Layer where
  /-- A task failed for good because of it. -/
  | task (id : Nat)
  /-- A plugin returned it under contexts. -/
  | passed (contexts : List String)
  /-- A plugin returned an error of its own that it caused, under contexts. -/
  | caused (text : String) (contexts : List String)

/-- A failure in one more layer. -/
def Layer.wrap : Layer → Failure → Failure
  | .task id, f => .taskFailed id f
  | .passed contexts, f => ofPlugin ((PluginError.known (.failure f) []).inContexts contexts)
  | .caused text contexts, f =>
    ofPlugin ((PluginError.causedBy text (.failure f) []).inContexts contexts)

/-- A failure in layers, the outermost first. -/
def within (layers : List Layer) (f : Failure) : Failure := layers.foldr Layer.wrap f

/-- A layer leaves the kind alone. -/
theorem Layer.kind_wrap (layer : Layer) (f : Failure) : (layer.wrap f).kind = f.kind := by
  cases layer with
  | task id => exact kind_taskFailed id f
  | passed contexts => exact congrArg kind (ofPlugin_inContexts contexts f)
  | caused text contexts =>
    rw [wrap, kind_ofPlugin, PluginError.kind_inContexts]
    rfl

/-- Layers leave the kind alone, however they are nested. -/
theorem kind_within (layers : List Layer) (f : Failure) : (f.within layers).kind = f.kind := by
  induction layers with
  | nil => rfl
  | cons layer rest ih => exact (Layer.kind_wrap layer _).trans ih

end Failure

/-! ## Decisions of a policy -/

namespace RetryRun

variable {α : Type} {policy : RetryPolicy} {work : Nat → Except Failure α}

theorem acts_after (events : List RetryEvent) (r : RetryRun α) :
    (r.after events).acts = events.filter RetryEvent.isAct ++ r.acts := by
  rw [acts, after, List.filter_append]
  rfl

theorem filter_isAct_failed (i : Nat) (f : Failure) :
    (failed i f).filter RetryEvent.isAct = [.called i] := by
  unfold failed
  split <;> rfl

/-- If the failures of some work are wrapped such that their kinds stay, it is called as often, and the
waits are the same. -/
theorem acts_goOn_congr {other : Nat → Except Failure α} {wrap : Nat → Failure → Failure}
    (wrapped : ∀ i, other i = (work i).mapError (wrap i))
    (kept : ∀ i f, (wrap i f).kind = f.kind) (i : Nat) :
    (goOn policy other i).acts = (goOn policy work i).acts := by
  fun_induction goOn policy work i with
  | case1 i a hw =>
    rw [goOn, wrapped i, hw]
    rfl
  | case2 i f hw hkind hlt ih =>
    rw [goOn, wrapped i, hw]
    simp only [Except.mapError, kept, hkind, if_true, if_pos hlt]
    rw [acts_after, acts_after, ih]
    simp only [List.filter_append, filter_isAct_failed, filter_isAct_pause]
  | case3 i f hw hkind hlt =>
    rw [goOn, wrapped i, hw]
    simp only [Except.mapError, kept, hkind, if_true, if_neg hlt]
    exact (filter_isAct_failed i (wrap i f)).trans (filter_isAct_failed i f).symm
  | case4 i f hw hkind =>
    rw [goOn, wrapped i, hw]
    simp only [Except.mapError, kept, if_neg hkind]
    exact (filter_isAct_failed i (wrap i f)).trans (filter_isAct_failed i f).symm

end RetryRun

/-! ## Every error of a plugin -/

namespace PluginError

/-- What an error of a plugin counts as, and goes on to count as on its way. -/
structure Classified (a : PluginError) : Prop where
  /-- A failure that passed through the plugin is taken for what it is. -/
  of_failure : ∀ f, a.root = .known (.failure f) → Failure.ofPlugin a = f
  of_other : (∀ f, a.root ≠ .known (.failure f)) → Failure.ofPlugin a = .plugin a
  /-- The first error in the chain that the engine knows decides the kind. -/
  kind_eq : (Failure.ofPlugin a).kind = a.firstKnown?.elim .plugin KnownError.kind
  /-- The failure may pass through any number of plugins. -/
  passes : ∀ contexts, Failure.ofPlugin
    ((known (.failure (Failure.ofPlugin a)) []).inContexts contexts) = Failure.ofPlugin a
  kind_inContexts : ∀ contexts,
    (Failure.ofPlugin (a.inContexts contexts)).kind = (Failure.ofPlugin a).kind
  kind_within : ∀ layers : List Failure.Layer,
    ((Failure.ofPlugin a).within layers).kind = (Failure.ofPlugin a).kind
  isRetryable_within : ∀ (policy : RetryPolicy) (contexts : List String)
    (layers : List Failure.Layer),
    policy.isRetryable ((Failure.ofPlugin (a.inContexts contexts)).within layers).kind =
      policy.isRetryable (Failure.ofPlugin a).kind

/-- Every error of a plugin keeps its kind through contexts, failed tasks and other plugins. Work that
fails with wrapped errors is tried as often as work that fails with bare ones. -/
theorem classified :
    (∀ a : PluginError, a.Classified) ∧
      ∀ {α : Type} (policy : RetryPolicy) (work : Nat → Except Failure α)
        (layers : Nat → List Failure.Layer),
        (RetryRun.run policy fun i => (work i).mapError (Failure.within (layers i))).acts =
          (RetryRun.run policy work).acts := by
  refine ⟨fun a => ?_, fun policy work layers => ?_⟩
  · exact {
      of_failure := fun f => Failure.ofPlugin_of_root
      of_other := Failure.ofPlugin_of_root_ne
      kind_eq := (Failure.kind_ofPlugin a).trans a.kind_eq
      passes := fun contexts => Failure.ofPlugin_inContexts contexts _
      kind_inContexts := fun contexts => by
        rw [Failure.kind_ofPlugin, Failure.kind_ofPlugin, PluginError.kind_inContexts]
      kind_within := fun layers => Failure.kind_within layers _
      isRetryable_within := fun policy contexts layers => by
        rw [Failure.kind_within, Failure.kind_ofPlugin, Failure.kind_ofPlugin,
          PluginError.kind_inContexts] }
  · exact RetryRun.acts_goOn_congr (fun _ => rfl) (fun i f => Failure.kind_within (layers i) f) 0

end PluginError

end BatchSync
