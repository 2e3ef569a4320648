import ModelForge.Proofs.Template.Definition
import ModelForge.Template.Rendering

/-! Running a definition of texts, variables, choices and loops. None of these changes the scope in
which the next one runs. -/
namespace ModelForge.Template

open Phrase (Condition Dotted Slot)

/-- A computation that comes to a value, with the scope behind it. -/
def Eval.Gives {α : Type} (computation : Eval α) (scope : Scope) (value : α) (after : Scope) :
    Prop :=
  computation.run.run scope = (.ok value, after)

namespace Eval.Gives

variable {α β : Type} {scope middle after : Scope} {computation : Eval α} {value : α}

theorem pure (scope : Scope) (value : α) : Gives (Pure.pure value) scope value scope := rfl

theorem bind {next : α → Eval β} {result : β} (first : Gives computation scope value middle)
    (then_ : Gives (next value) middle result after) :
    Gives (computation >>= next) scope result after := by
  simp only [Gives] at first then_ ⊢
  rw [ExceptT.run_bind, StateT.run_bind, first]
  exact then_

theorem map {f : α → β} (gives : Gives computation scope value after) :
    Gives (f <$> computation) scope (f value) after := by
  simp only [Gives] at gives ⊢
  rw [ExceptT.run_map, StateT.run_map, gives]
  rfl

theorem get (scope : Scope) : Gives (MonadState.get : Eval Scope) scope scope scope := rfl

theorem tryCatch {handler : Problem → Eval α} (gives : Gives computation scope value after) :
    Gives (tryCatchThe Problem computation handler) scope value after := by
  simp only [Gives] at gives
  simp only [Gives, tryCatchThe, MonadExceptOf.tryCatch, ExceptT.tryCatch, ExceptT.run_mk]
  rw [StateT.run_bind]
  erw [gives]
  rfl

end Eval.Gives

section Lookup

/-- What a variable means among values that have names. -/
def Phrase.Dotted.among (name : Dotted) (bindings : List (String × Value)) : Option Value :=
  (bindings.lookup name.owner).bind (·.part? name.part)

theorem replaceFrom_absent {first : Char} {more replacement s : List Char} (absent : first ∉ s) :
    Text.replaceFrom first more replacement 0 s = s := by
  induction s with
  | nil => rfl
  | cons c rest ih =>
    rw [List.mem_cons, not_or] at absent
    simp [Text.replaceFrom, Ne.symm absent.1, ih absent.2]

/-- A word holds none of the signs that a path is cut at. -/
theorem not_mem_isWord {w : List Char} (isWord : Phrase.isWord w = true) {c : Char}
    (sign : Phrase.isWordPart c = false) : c ∉ w := by
  intro member
  rw [(Phrase.all_isWord isWord).2 c member] at sign
  cases sign

theorem splitSteps_word {w : List Char} (step : List Char)
    (inside : ∀ c ∈ w, Phrase.isWordPart c = true) :
    Scope.splitSteps none step w = [step.reverse ++ w] := by
  induction w generalizing step with
  | nil => simp [Scope.splitSteps]
  | cons c rest ih =>
    have part := inside c List.mem_cons_self
    have other {d : Char} (sign : Phrase.isWordPart d = false) : c ≠ d := by
      rintro rfl
      rw [part] at sign
      cases sign
    have further := ih (c :: step) fun d member => inside d (List.mem_cons_of_mem _ member)
    simp [Scope.splitSteps, other (show Phrase.isWordPart '.' = false by decide),
      other (show Phrase.isWordPart '"' = false by decide),
      other (show Phrase.isWordPart '\'' = false by decide), further]

theorem stepName_word {w : List Char} (isWord : Phrase.isWord w = true) :
    Scope.stepName w = String.ofList w := by
  have keeps {s : List Char} (inside : ∀ c ∈ s, Phrase.isWordPart c = true) :
      s.dropWhile Scope.isQuote = s := by
    cases s with
    | nil => rfl
    | cons c rest =>
      have part := inside c List.mem_cons_self
      have noQuote : Scope.isQuote c = false := by
        simp only [Scope.isQuote, Bool.or_eq_false_iff, beq_eq_false_iff_ne]
        constructor
        all_goals
          rintro rfl
          cases part
      rw [List.dropWhile_cons, noQuote]
      rfl
  have inside := (Phrase.all_isWord isWord).2
  have tilde : '~' ∉ w := not_mem_isWord isWord (by decide)
  have back : (w.reverse.dropWhile Scope.isQuote).reverse = w := by
    rw [keeps fun c member => inside c (List.mem_reverse.1 member), List.reverse_reverse]
  rw [Scope.stepName]
  simp only [keeps inside, back, Text.replaceAll, replaceFrom_absent tilde]

theorem cut?_dotted (name : Dotted) :
    Text.cut? '.' name.text.toList = some (name.owner.toList, name.part.toList) := by
  have chars : name.text.toList = name.owner.toList ++ '.' :: name.part.toList := by
    simp [Dotted.text]
  rw [chars, Text.cut?_append _ (not_mem_isWord name.isOwner (by decide))]

theorem inBindings_dotted (bindings : List (String × Value)) (name : Dotted) :
    Scope.inBindings bindings name.text = name.among bindings := by
  have steps : Scope.stepsOf name.part.toList = [name.part] := by
    have inside := (Phrase.all_isWord name.isPart).2
    rw [Scope.stepsOf, splitSteps_word [] inside]
    simp [stepName_word name.isPart]
  have one (value : Value) : Scope.descend value [name.part] = value.part? name.part := by
    simp [Scope.descend]
  rw [Scope.inBindings, cut?_dotted]
  simp only [String.ofList_toList, steps, one, Dotted.among]

variable {template : String} {context : List (String × Value)} {name : Dotted} {value : Value}

/-- The scope in which a definition starts. -/
def Scope.start (template : String) (context : List (String × Value)) : Scope :=
  ⟨template, ⟨.definition, []⟩, [], context⟩

/-- The scope in a round of a loop that stands at the top. -/
def Scope.inRound (start : Scope) (loop : Loop) : Scope := start.enter ⟨.loopBody loop, []⟩

theorem valueOf_of_find? {scope : Scope} (found : scope.find? name.text = some value) :
    scope.valueOf name.text = .ok value := by
  have other : name.text ≠ Scope.wholeContext := by
    intro same
    have dot : '.' ∈ Scope.wholeContext.toList := by
      rw [← same]
      simp [Dotted.text]
    exact absurd dot (by decide)
  have noBracket : name.text.toList.contains '[' = false := by
    have owner : '[' ∉ name.owner.toList := not_mem_isWord name.isOwner (by decide)
    have part : '[' ∉ name.part.toList := not_mem_isWord name.isPart (by decide)
    simp [Dotted.text, owner, part]
  rw [Scope.valueOf, if_neg other, Scope.lookup]
  simp only [noBracket, found]
  rfl

theorem find?_start : (Scope.start template context).find? name.text = name.among context := by
  have nothing : Scope.inFrames name.text [⟨.definition, []⟩] = none := by
    simp [Scope.inFrames, Scope.inFrame, inBindings_dotted, Dotted.among, Frame.isOpen]
  rw [Scope.find?, Scope.start, nothing]
  exact inBindings_dotted context name

/-- In a loop its item comes first. -/
theorem find?_inRound {scope : Scope} {loop : Loop} {item : Value} (noKey : loop.keyName = none)
    (current : loop.item? = some item) (noLoop : name.owner ≠ "loop") :
    (scope.inRound loop).find? name.text =
      (name.among [(loop.itemName, item)]).or (scope.find? name.text) := by
  have inLoop : Scope.inLoop loop name.text = name.among [(loop.itemName, item)] := by
    rw [Scope.inLoop, noKey, if_neg (by simp), cut?_dotted]
    simp only [Option.getD_some, String.ofList_toList, if_neg noLoop, current, Option.bind_some]
    exact inBindings_dotted _ name
  have inFrame : Scope.inFrame ⟨.loopBody loop, []⟩ name.text =
      name.among [(loop.itemName, item)] := by
    have noBinding : Scope.inBindings [] name.text = none := by
      simp [inBindings_dotted, Dotted.among]
    rw [Scope.inFrame, noBinding]
    exact inLoop
  have isOpen : Frame.isOpen ⟨.loopBody loop, []⟩ = true := rfl
  rw [Scope.find?, Scope.inRound, Scope.enter, Scope.inFrames, inFrame, isOpen]
  cases name.among [(loop.itemName, item)] with
  | some value => rfl
  | none => rfl

end Lookup

section Nodes

variable {callees : Callees} {runMacro : MacroRunner} {scope : Scope} {name : Dotted}
  {value : Value}

open Eval (Gives)

/-- A variable on its own. -/
def shownSlot (name : Dotted) : Slot := ⟨name, none, by simp⟩

/-- A variable with quotes put around it. -/
def quotedSlot (name : Dotted) : Slot := ⟨name, some "quote", by simp; decide⟩

theorem term_gives (found : scope.valueOf name.text = .ok value) :
    Gives ((TermMeaning.ofLookup name.text).value false none) scope (value, false) scope := by
  refine (Gives.get scope).bind ?_
  rw [found]
  cases value <;> exact Gives.pure scope _

theorem shownSlot_gives (found : scope.valueOf name.text = .ok value) :
    Gives (Expr.meaning runMacro (shownSlot name).value).value scope value scope := by
  refine (term_gives found).bind ?_
  exact (Gives.pure scope value).bind (Gives.pure scope value)

theorem applyTo_quote (s : String) :
    Gives (CallMeaning.applyTo ⟨"quote", []⟩ (.text s)) scope (.text (Filter.quote s)) scope := by
  have inside : Gives (do
      let arguments ← CallMeaning.evaluated []
      Eval.ofExcept ((fun _ value => do
        pure (Value.text (Filter.quote (← Filter.textOf "quote" value))) :
          Filter.Arguments → Value → Except Problem Value) arguments (.text s)))
      scope (.text (Filter.quote s)) scope := rfl
  exact inside.tryCatch

theorem quotedSlot_gives {s : String} (found : scope.valueOf name.text = .ok (.text s)) :
    Gives (Expr.meaning runMacro (quotedSlot name).value).value scope (.text (Filter.quote s))
      scope := by
  have filtered : Gives (CallMeaning.applyAll [⟨"quote", []⟩] (.text s)) scope
      (.text (Filter.quote s)) scope := (applyTo_quote s).bind (Gives.pure scope _)
  refine (term_gives found).bind ?_
  exact filtered.bind (Gives.pure scope _)

theorem run_text (s : String) : Gives (Node.run callees (.text s)) scope s scope := rfl

theorem run_print {e : Expr} (gives : Gives (Expr.meaning callees.runMacro e).value scope value scope) :
    Gives (Node.run callees (.print e)) scope value.shown scope := by
  refine gives.bind ?_
  exact Gives.pure scope _

/-- A variable as a condition. -/
theorem truth_gives (found : scope.valueOf name.text = .ok value) :
    Gives (Expr.meaning runMacro (shownSlot name).value).truth scope value.isTruthy scope :=
  ((shownSlot_gives found).map (f := Value.isTruthy)).tryCatch

theorem run_branch {condition : Expr} {truth : Bool} {yes no : List Node} {text : String}
    (asked : Gives (Expr.meaning callees.runMacro condition).truth scope truth scope)
    (gives : Gives (if truth then runNodes callees yes else runNodes callees no) scope text scope) :
    Gives (Node.run callees (.branch condition yes no)) scope text scope :=
  asked.bind gives

theorem runNodes_nil : Gives (runNodes callees []) scope "" scope := rfl

theorem runNodes_cons {node : Node} {rest : List Node} {first more : String}
    (onward : scope.flow = .onward) (one : Gives (Node.run callees node) scope first scope)
    (others : Gives (runNodes callees rest) scope more scope) :
    Gives (runNodes callees (node :: rest)) scope (first ++ more) scope := by
  refine one.bind ((Gives.get scope).bind ?_)
  rw [if_pos onward]
  exact others.bind (Gives.pure scope _)

/-- A loop whose body leaves each round as it found it puts down what the rounds give. -/
theorem rounds_gives {body : Eval String} {start : Scope} (texts : List String) (loop : Loop)
    (onward : loop.flow = .onward)
    (gives : ∀ (round : Nat) (inside : round < texts.length),
      Gives body (start.inRound { loop with index := loop.index + round }) texts[round]
        (start.inRound { loop with index := loop.index + round })) :
    Gives (Eval.rounds body texts.length) (start.inRound loop) (String.join texts)
      (start.inRound { loop with index := loop.index + texts.length }) := by
  induction texts generalizing loop with
  | nil => exact Gives.pure _ _
  | cons text rest ih =>
    have next : loop.next = { loop with index := loop.index + 1 } := by
      rw [Loop.next, ← onward]
    have first : Gives body (start.inRound loop) text (start.inRound loop) :=
      gives 0 (by simp)
    have step : Gives (Eval.change (.outsideLoop "increment") Scope.nextRound?)
        (start.inRound loop) () (start.inRound loop.next) := rfl
    have more := ih loop.next rfl fun round inside => by
      have later := gives (round + 1) (by simpa using inside)
      rw [next]
      simpa [Nat.add_assoc, Nat.add_comm 1] using later
    have goesOn : (start.inRound loop).flow ≠ .exitLoop := by
      show loop.flow ≠ .exitLoop
      rw [onward]
      decide
    rw [List.length_cons, Eval.rounds]
    refine first.bind ((Gives.get _).bind ?_)
    rw [if_neg goesOn]
    have last : ({ loop.next with index := loop.next.index + rest.length } : Loop) =
        { loop with index := loop.index + (rest.length + 1) } := by
      rw [next, Nat.add_assoc, Nat.add_comm 1]
    rw [← last, String.join_cons]
    exact step.bind (more.bind (Gives.pure _ _))

/-- A loop over a list. -/
theorem run_loop {item : String} {body : List Node} {items : List Value} {texts : List String}
    (found : scope.valueOf name.text = .ok (.list items)) (total : texts.length = items.length)
    (gives : ∀ (round : Nat) (inside : round < texts.length),
      let loop : Loop :=
        ⟨none, item, (items.map (("", ·))).toArray, items.length, round, .onward⟩
      Gives (runNodes callees body) (scope.inRound loop) texts[round] (scope.inRound loop)) :
    Gives (Node.run callees (.loop none item (shownSlot name).value body [])) scope
      (String.join texts) scope := by
  obtain ⟨loop, first⟩ : ∃ loop : Loop, loop =
    ⟨none, item, (items.map (("", ·))).toArray, items.length, 0, .onward⟩ := ⟨_, rfl⟩
  have ofValue : Gives (Eval.ofExcept (Loop.ofValue name.text none item (.list items))) scope loop
      scope := by
    rw [first]
    rfl
  refine (shownSlot_gives found).bind (ofValue.bind ?_)
  cases texts with
  | nil =>
    have none : loop.total = 0 := by
      rw [first]
      exact total.symm
    rw [if_pos none]
    exact runNodes_nil
  | cons text rest =>
    have some : loop.total ≠ 0 := by
      rw [first]
      show items.length ≠ 0
      rw [← total]
      simp
    have rounds := rounds_gives (text :: rest) loop (by rw [first]) fun round inside => by
      have one := gives round inside
      rw [first]
      simpa using one
    have count : loop.total = (text :: rest).length := by
      rw [first]
      exact total.symm
    rw [if_neg some, count]
    have enters : Gives (modify (·.enter ⟨.loopBody loop, []⟩) : Eval Unit) scope ()
        (scope.inRound loop) := rfl
    have leaves (loop : Loop) : Gives (modify Scope.leave : Eval Unit) (scope.inRound loop) ()
        scope := rfl
    exact enters.bind (rounds.bind ((leaves _).bind (Gives.pure _ _)))

end Nodes

section Filling

open Eval (Gives)

/-- What names mean. -/
abbrev Look := Dotted → Option Value

namespace Look

/-- What names mean in a round of a loop. -/
def within (look : Look) (item : String) (value : Value) : Look := fun name =>
  if name.owner = "loop" then none else (name.among [(item, value)]).or (look name)

/-- Names mean in a scope what they should. -/
def Faithful (look : Look) (scope : Scope) : Prop :=
  ∀ name value, look name = some value → scope.find? name.text = some value

theorem faithful_start (template : String) (context : List (String × Value)) :
    Faithful (·.among context) (Scope.start template context) := by
  intro name value among
  rw [find?_start]
  exact among

variable {look : Look} {scope : Scope}

theorem Faithful.within {loop : Loop} {value : Value} (faithful : Faithful look scope)
    (noKey : loop.keyName = none) (current : loop.item? = some value) :
    Faithful (look.within loop.itemName value) (scope.inRound loop) := by
  intro name found means
  unfold Look.within at means
  split at means
  · cases means
  · rename_i noLoop
    rw [find?_inRound noKey current noLoop]
    cases among : name.among [(loop.itemName, value)] with
    | some inside => simpa [among] using means
    | none =>
      rw [among, Option.none_or] at means
      rw [Option.none_or, faithful name found means]

theorem Faithful.valueOf {name : Dotted} {value : Value} (faithful : Faithful look scope)
    (means : look name = some value) : scope.valueOf name.text = .ok value :=
  valueOf_of_find? (faithful name value means)

end Look

/-- What a variable puts down. -/
def Phrase.Slot.filled (slot : Slot) (look : Look) : Option String :=
  match look slot.name, slot.filter with
  | some (.text s), none => some s
  | some (.text s), some filter => if filter = "quote" then some (Filter.quote s) else none
  | _, _ => none

/-- What a condition comes to. -/
def Phrase.Condition.truth? (look : Look) : Condition → Option Bool
  | .holds slot => if slot.filter.isSome then none else (look slot.name).map Value.isTruthy
  | .equals slot s _ => (slot.filled look).map (· == s)

namespace Part

mutual

/-- What a part puts down. -/
def filled (look : Look) (cut : Bool) : Part → Option String
  | text s => some (String.ofList (if cut then Text.trimRight s else s))
  | print slot => slot.filled look
  | choice cutElse cutEnd condition yes no =>
    (condition.truth? look).bind fun truth =>
      if truth then filledAll look cutElse yes else filledAll look cutEnd no
  | each _ cutEnd item container body =>
    if container.filter.isSome then none
    else match look container.name with
      | some (.list items) =>
        (items.mapM fun value => filledAll (look.within item value) cutEnd body).map String.join
      | _ => none

/-- What parts put down that follow each other. -/
def filledAll (look : Look) (cutEnd : Bool) : List Part → Option String
  | [] => some ""
  | part :: rest =>
    (part.filled look ((rest.head?.map cutsBefore).getD cutEnd)).bind fun first =>
      (filledAll look cutEnd rest).map (first ++ ·)

end

variable {callees : Callees} {look : Look} {scope : Scope} {text : String}

/-- What running a part comes to. -/
def Runs (callees : Callees) (scope : Scope) (nodes : List Node) (text : String) : Prop :=
  (nodes = [] ∧ text = "") ∨
    ∃ node, nodes = [node] ∧ Gives (Node.run callees node) scope text scope

theorem runs_textNodes (cut : Bool) (s : List Char) :
    Runs callees scope (textNodes cut s) (String.ofList (if cut then Text.trimRight s else s)) := by
  cases cut with
  | false => exact .inr ⟨_, rfl, run_text _⟩
  | true =>
    cases empty : (Text.trimRight s).isEmpty with
    | true =>
      refine .inl ⟨by rw [textNodes, empty]; rfl, ?_⟩
      rw [if_pos rfl, List.isEmpty_iff.1 empty]
    | false => exact .inr ⟨_, by rw [textNodes, empty]; rfl, run_text _⟩

/-- What a variable puts down is the text it stands for. -/
theorem slot_gives {runMacro : MacroRunner} {slot : Slot} (faithful : look.Faithful scope)
    (filled : slot.filled look = some text) :
    Gives (Expr.meaning runMacro slot.value).value scope (.text text) scope := by
  obtain ⟨name, filter, isFilter⟩ := slot
  unfold Slot.filled at filled
  split at filled
  · rename_i s means none
    obtain rfl : filter = Option.none := none
    obtain rfl : s = text := Option.some.inj filled
    exact shownSlot_gives (faithful.valueOf means)
  · rename_i s filter' means some
    obtain rfl : filter = Option.some filter' := some
    split at filled
    · rename_i quotes
      subst quotes
      obtain rfl : Filter.quote s = text := Option.some.inj filled
      exact quotedSlot_gives (faithful.valueOf means)
    · cases filled
  · cases filled

theorem runs_slot {slot : Slot} (faithful : look.Faithful scope)
    (filled : slot.filled look = some text) :
    Gives (Node.run callees (.print slot.value)) scope text scope :=
  run_print (slot_gives faithful filled)

/-- A slot without a filter. -/
theorem value_unfiltered {slot : Slot} (unfiltered : ¬slot.filter.isSome = true) :
    slot.value = (shownSlot slot.name).value := by
  obtain ⟨name, filter, isFilter⟩ := slot
  cases filter with
  | none => rfl
  | some filter => exact absurd rfl unfiltered

/-- A condition comes to what it says about the values of its variable. -/
theorem condition_gives {runMacro : MacroRunner} {condition : Condition} {truth : Bool}
    (faithful : look.Faithful scope) (asked : condition.truth? look = some truth) :
    Gives (Expr.meaning runMacro condition.value).truth scope truth scope := by
  cases condition with
  | holds slot =>
    rw [Condition.truth?] at asked
    split at asked
    · cases asked
    · rename_i unfiltered
      obtain ⟨value, means, rfl⟩ := Option.map_eq_some_iff.1 asked
      rw [Condition.value, value_unfiltered unfiltered]
      exact truth_gives (faithful.valueOf means)
  | equals slot s quotable =>
    obtain ⟨shown, filled, rfl⟩ := Option.map_eq_some_iff.1 asked
    have left : Gives (Expr.meaning runMacro slot.value).value scope (.text shown) scope :=
      slot_gives faithful filled
    have right : Gives (Expr.meaning runMacro (.plain (.text s))).value scope (.text s) scope := rfl
    have compared : Gives (TermMeaning.comparison .equal (Expr.meaning runMacro slot.value)
        (Expr.meaning runMacro (.plain (.text s)))) scope (some (shown == s)) scope := by
      refine left.bind (right.bind ?_)
      have same : Value.compare? true (.text shown) (.text s) = some (shown == s) := by
        by_cases eq : shown = s <;> simp [Value.compare?, Value.same, eq]
      rw [same]
      exact Gives.pure scope _
    refine compared.bind ?_
    dsimp only
    rw [Bool.bne_false]
    exact Gives.pure scope _

theorem mapM_cons {α β : Type} {f : α → Option β} {item : α} {items : List α} {results : List β}
    (mapped : (item :: items).mapM f = some results) :
    ∃ first more, f item = some first ∧ items.mapM f = some more ∧ results = first :: more := by
  rw [List.mapM_cons] at mapped
  obtain ⟨first, one, mapped⟩ := Option.bind_eq_some_iff.1 mapped
  obtain ⟨more, others, mapped⟩ := Option.bind_eq_some_iff.1 mapped
  exact ⟨first, more, one, others, (Option.some.inj mapped).symm⟩

theorem mapM_eq_some {α β : Type} {f : α → Option β} {items : List α} {results : List β}
    (mapped : items.mapM f = some results) :
    results.length = items.length ∧
      ∀ (place : Nat) (inside : place < items.length) (inside' : place < results.length),
        f items[place] = some results[place] := by
  induction items generalizing results with
  | nil =>
    obtain rfl : [] = results := Option.some.inj mapped
    exact ⟨rfl, fun place inside => absurd inside (by simp)⟩
  | cons item rest ih =>
    obtain ⟨first, more, one, others, rfl⟩ := mapM_cons mapped
    obtain ⟨length, each⟩ := ih others
    refine ⟨by simp [length], fun place inside inside' => ?_⟩
    cases place with
    | zero => exact one
    | succ place => exact each place (by simpa using inside) (by simpa using inside')

mutual

/-- What a part puts down is what running its node comes to. -/
theorem runs_filled (look : Look) (scope : Scope) (faithful : look.Faithful scope)
    (onward : scope.flow = .onward) : (cut : Bool) → (part : Part) → (out : String) →
    part.filled look cut = some out → Runs callees scope (part.nodes cut) out
  | cut, .text s, out, filled => by
    rw [Part.filled, Option.some.injEq] at filled
    rw [← filled, Part.nodes]
    exact runs_textNodes cut s
  | cut, .print slot, out, filled => by
    rw [Part.filled] at filled
    exact .inr ⟨_, rfl, runs_slot faithful filled⟩
  | cut, .choice cutElse cutEnd condition yes no, out, filled => by
    rw [Part.filled] at filled
    obtain ⟨truth, asked, filled⟩ := Option.bind_eq_some_iff.1 filled
    refine .inr ⟨_, rfl, run_branch (condition_gives faithful asked) ?_⟩
    cases truth with
    | true => exact runs_filledAll look scope faithful onward cutElse yes out filled
    | false => exact runs_filledAll look scope faithful onward cutEnd no out filled
  | cut, .each cutBefore cutEnd item container body, out, filled => by
    rw [Part.filled] at filled
    split at filled
    · cases filled
    · rename_i unfiltered
      split at filled
      · rename_i items means
        obtain ⟨texts, mapped, rfl⟩ := Option.map_eq_some_iff.1 filled
        obtain ⟨length, each⟩ := mapM_eq_some mapped
        refine .inr ⟨_, rfl, ?_⟩
        rw [value_unfiltered unfiltered]
        refine run_loop (faithful.valueOf means) length fun round inside => ?_
        have inside' : round < items.length := by omega
        let loop : Loop :=
          ⟨none, item, (items.map (("", ·))).toArray, items.length, round, .onward⟩
        have current : loop.item? = some items[round] := by
          simp [loop, Loop.item?, inside']
        have within : (look.within item items[round]).Faithful (scope.inRound loop) :=
          faithful.within rfl current
        exact runs_filledAll _ _ within rfl cutEnd body _ (each round inside' inside)
      · cases filled

theorem runs_filledAll (look : Look) (scope : Scope) (faithful : look.Faithful scope)
    (onward : scope.flow = .onward) : (cutEnd : Bool) → (parts : List Part) → (out : String) →
    filledAll look cutEnd parts = some out →
      Gives (runNodes callees (nodesAll cutEnd parts)) scope out scope
  | cutEnd, [], out, filled => by
    rw [filledAll, Option.some.injEq] at filled
    rw [← filled]
    exact runNodes_nil
  | cutEnd, part :: rest, out, filled => by
    rw [filledAll, Option.bind_eq_some_iff] at filled
    obtain ⟨first, one, filled⟩ := filled
    obtain ⟨more, others, rfl⟩ := Option.map_eq_some_iff.1 filled
    have behind := runs_filledAll look scope faithful onward cutEnd rest more others
    rw [nodesAll]
    rcases runs_filled look scope faithful onward _ part first one with ⟨none, rfl⟩ |
      ⟨node, only, gives⟩
    · rw [none, List.nil_append, String.empty_append]
      exact behind
    · rw [only]
      exact runNodes_cons onward gives behind

end

end Part

end Filling

/-- A regular definition that begins with a text is rendered as what its parts put down. -/
theorem Part.render_filled {template source out : String} {context : List (String × Value)}
    {parts : List Part} {c : Char} {more : List Char} (spells : source.toList = spelledAll parts)
    (regular : areRegular parts = true) (front : spelledAll parts = c :: more)
    (notSpace : Phrase.isSpace c = false) (noBrace : c ≠ '\x7b')
    (filled : filledAll (·.among context) false parts = some out) :
    render template source context = .ok out := by
  have parsed := parse?_eq spells regular front notSpace noBrace
  have gives (callees : Callees) : Eval.Gives (runNodes callees (nodesAll false parts))
      (Scope.start template context) out (Scope.start template context) :=
    runs_filledAll _ _ (Look.faithful_start template context) rfl false parts out filled
  have ran := gives
    (Definition.callees ⟨none, [], [], [], nodesAll false parts⟩ template Definition.callDepth)
  rw [render, parsed]
  show Definition.run ⟨none, [], [], [], nodesAll false parts⟩ template context = .ok out
  rw [Definition.run]
  simp only [Eval.Gives, Scope.start] at ran
  rw [ran]

end ModelForge.Template
