import LocaleText.Library.Messages

/-!
# LocaleText.Proofs.Influence

**A rendering depends on what the template names.** A `Setting` is all that a template is rendered
in: the list of arguments, the formatters and the plural rules. Two settings `Agree` on a template
when they have the same value for each of its keys, the same formatter for each of its steps that is
not a switch table, and rules that say the same about the numbers that its plural blocks count. The
template then renders the same in both (`Setting.render_congr`), however else the settings differ,
and the keys that a message reports are all that its arguments are read for (`Messages.call_congr`).

A missing argument counts as `null` throughout, so settings are compared through `Setting.value`.
The proof goes from one step of a chain to a part, and from there along the parts.
-/

namespace LocaleText

/-! ### The keys of a template -/

/-- Names that are new are added to those seen, and nothing else is. -/
theorem mem_addNew {key : Text} {seen keys : List Text} :
    key ∈ Template.addNew seen keys ↔ key ∈ seen ∨ key ∈ keys := by
  induction keys generalizing seen with
  | nil => rw [Template.addNew_nil, or_iff_left List.not_mem_nil]
  | cons first rest ih =>
      rw [Template.addNew_cons, ih, List.mem_cons, ← or_assoc]
      by_cases known : first ∈ seen
      · -- Nothing is added, and `first` is among the names seen already.
        rw [if_pos known]
        refine or_congr_left ⟨Or.inl, fun mem => ?_⟩
        rcases mem with mem | rfl
        · exact mem
        · exact known
      · rw [if_neg known, List.mem_append, List.mem_singleton]

/-- The keys of a template are the keys that its parts read. The order in which they are listed, and
that each is listed once, does not matter here. -/
theorem Template.mem_keys_iff {template : Template} {key : Text} :
    key ∈ template.keys ↔ ∃ part ∈ template.parts, part.key? = some key := by
  rw [keys, mem_addNew, or_iff_right List.not_mem_nil, List.mem_filterMap]

/-! ### Settings -/

/-- The value of a key in a list of arguments; a missing one counts as `null`. Placeholders and
blocks make no difference between the two. -/
def argumentValue (arguments : List Json) (key : Text) : Json :=
  ((Arguments.ofList arguments).find? key).getD .null

/-- What a template is rendered in. Nothing else, such as what has been rendered before, has an
influence. -/
structure Setting where
  /-- The list of arguments. -/
  arguments : List Json
  /-- The formatters. -/
  registry : Registry
  /-- The plural rules. -/
  select : Selector

namespace Setting

/-- The value of a key. -/
def value (setting : Setting) (key : Text) : Json :=
  argumentValue setting.arguments key

/-- The text of a template. -/
def render (setting : Setting) (template : Template) : Text :=
  template.render setting.select setting.registry (Arguments.ofList setting.arguments)

/-- The numbers that the plural rules are asked about. -/
def consulted (setting : Setting) (template : Template) : List Float :=
  template.consulted setting.select setting.registry (Arguments.ofList setting.arguments)

end Setting

/-- The two registries have the same formatter for each step that is not a switch table, or none
both. A table is read from the step itself. -/
def StepsAgree (r₁ r₂ : Registry) (steps : List Text) : Prop :=
  ∀ step ∈ steps, Switch.parse? step = none → r₁.find? step = r₂.find? step

/-- The two settings are alike in all that the template names. They may differ in arguments that it
does not read, in formatters that it does not call, and in what the rules say about all other
numbers. -/
structure Agree (template : Template) (a b : Setting) : Prop where
  /-- Each key has the same value. -/
  values : ∀ key ∈ template.keys, a.value key = b.value key
  /-- Each step that is not a switch table has the same formatter, or none. -/
  formatters : ∀ p, Part.placeholder p ∈ template.parts → StepsAgree a.registry b.registry p.steps
  /-- The rules say the same about the number of each block, unless its value is a truth value. -/
  rules : ∀ block, Part.plural block ∈ template.parts →
    (∀ truth, a.value block.key ≠ .bool truth) →
      a.select (pluralOperand (some (a.value block.key))) =
        b.select (pluralOperand (some (b.value block.key)))

/-! ### One placeholder -/

/-- A step looks at no formatter but its own. -/
theorem applyStep_congr {r₁ r₂ : Registry} {step : Text} (value : Json)
    (h : Switch.parse? step = none → r₁.find? step = r₂.find? step) :
    Chain.applyStep r₁ value step = Chain.applyStep r₂ value step := by
  have same : Chain.result? r₁ step value = Chain.result? r₂ step value := by
    unfold Chain.result?
    cases read : Switch.parse? step with
    | some switch => rfl
    | none =>
        show (r₁.find? step).map _ = (r₂.find? step).map _
        rw [h read]
  rw [Chain.applyStep, Chain.applyStep, same]

/-- A chain looks at no formatters but those of its steps. The value is general, since the second
step starts from what the first one made. -/
theorem apply_congr {r₁ r₂ : Registry} {steps : List Text} (value : Json)
    (h : StepsAgree r₁ r₂ steps) : Chain.apply r₁ steps value = Chain.apply r₂ steps value := by
  induction steps generalizing value with
  | nil => rfl
  | cons step rest ih =>
      have here := applyStep_congr value (h step List.mem_cons_self)
      have later : StepsAgree r₁ r₂ rest := fun next mem => h next (List.mem_cons_of_mem step mem)
      show Chain.apply r₁ rest (Chain.applyStep r₁ value step) =
        Chain.apply r₂ rest (Chain.applyStep r₂ value step)
      rw [here, ih _ later]

/-! ### One part after the other

The rules are asked through an effect here, so that one induction serves both for the text and for
the numbers asked about. -/

section Effects

variable {m : Type → Type} [Monad m] {ask₁ ask₂ : Float → m Category} {template : Template}
  {a b : Setting}

/-- A block does not tell a missing argument from `null`: neither counts as a number, and both are
displayed as nothing. -/
theorem PluralBlock.renderM_getD (block : PluralBlock) (ask : Float → m Category)
    (argument : Option Json) :
    block.renderM ask argument = block.renderM ask (some (argument.getD .null)) := by
  cases argument with
  | none => rfl
  | some value => rfl

/-- A choice is left to the rules for a value that is no truth value only, and by the number that
the value counts as. -/
theorem choice_eq_asks {forms : PluralForms} {value : Json} {operand : Float}
    (h : forms.choice (some value) = .asks operand) :
    (∀ truth, value ≠ .bool truth) ∧ operand = pluralOperand (some value) := by
  unfold PluralForms.choice at h
  split at h
  · cases h
  · cases h
  · rename_i notTrue notFalse
    split at h
    · cases h
    · refine ⟨fun truth same => ?_, (Choice.asks.inj h).symm⟩
      cases truth with
      | true => exact notTrue (congrArg some same)
      | false => exact notFalse (congrArg some same)

/-- A block depends on its argument, and on the rules where they are asked. What is assumed of the
rules is that they say the same about this one number, and that asking has the same effect where
they do. -/
theorem pluralBlock_congr {block : PluralBlock} (mem : Part.plural block ∈ template.parts)
    (agree : Agree template a b) (asks : ∀ x, a.select x = b.select x → ask₁ x = ask₂ x) :
    block.renderM ask₁ ((Arguments.ofList a.arguments).find? block.key) =
      block.renderM ask₂ ((Arguments.ofList b.arguments).find? block.key) := by
  have named : block.key ∈ template.keys := Template.mem_keys_iff.2 ⟨.plural block, mem, rfl⟩
  have value : a.value block.key = b.value block.key := agree.values block.key named
  have rules := agree.rules block mem
  rw [block.renderM_getD ask₁, block.renderM_getD ask₂]
  show block.renderM ask₁ (some (a.value block.key)) = block.renderM ask₂ (some (b.value block.key))
  -- With the same value on both sides, the choice is the same; only the rules can differ.
  rw [← value] at rules ⊢
  unfold PluralBlock.renderM
  cases choice : block.forms.choice (some (a.value block.key)) with
  | settled form => rfl
  | asks operand =>
      obtain ⟨noTruth, rfl⟩ := choice_eq_asks choice
      show (do let category ← ask₁ _; pure _) = (do let category ← ask₂ _; pure _)
      rw [asks _ (rules noTruth)]

/-- A part depends on the value of its key, and on the formatters or the rules that it names. -/
theorem part_congr {part : Part} (mem : part ∈ template.parts) (agree : Agree template a b)
    (asks : ∀ x, a.select x = b.select x → ask₁ x = ask₂ x) :
    part.renderM ask₁ a.registry (Arguments.ofList a.arguments) =
      part.renderM ask₂ b.registry (Arguments.ofList b.arguments) := by
  cases part with
  | literal text => rfl
  | placeholder p =>
      have named : p.key ∈ template.keys := Template.mem_keys_iff.2 ⟨.placeholder p, mem, rfl⟩
      have value : a.value p.key = b.value p.key := agree.values p.key named
      have steps := apply_congr (a.value p.key) (agree.formatters p mem)
      show pure (Text.trim (Chain.apply a.registry p.steps (a.value p.key)).display) =
        pure (Text.trim (Chain.apply b.registry p.steps (b.value p.key)).display)
      rw [steps, value]
  | plural block => exact pluralBlock_congr mem agree asks

/-- All parts in turn. `parts` is any list of parts of the template, so that the induction can drop
the first. -/
theorem renderAllM_congr {parts : List Part} (within : ∀ part ∈ parts, part ∈ template.parts)
    (agree : Agree template a b) (asks : ∀ x, a.select x = b.select x → ask₁ x = ask₂ x) :
    Part.renderAllM ask₁ a.registry (Arguments.ofList a.arguments) parts =
      Part.renderAllM ask₂ b.registry (Arguments.ofList b.arguments) parts := by
  induction parts with
  | nil => rfl
  | cons part rest ih =>
      have front := part_congr (within part List.mem_cons_self) agree asks
      have back := ih fun next mem => within next (List.mem_cons_of_mem part mem)
      rw [Part.renderAllM, Part.renderAllM, front, back]

end Effects

section Render

variable {template : Template} {a b : Setting}

/-- **Two runs.** Settings that agree on a template show the same text. The effect of asking is none
here. -/
theorem Setting.render_congr (agree : Agree template a b) :
    a.render template = b.render template := by
  have asks (x : Float) (same : a.select x = b.select x) :
      (pure (a.select x) : Id Category) = pure (b.select x) := congrArg pure same
  exact congrArg Id.run (renderAllM_congr (fun _ mem => mem) agree asks)

/-- Under the same rules and formatters, settings agree as soon as the keys have the same values. -/
theorem Agree.of_values {select : Selector} {registry : Registry}
    {arguments₁ arguments₂ : List Json}
    (values : ∀ key ∈ template.keys, argumentValue arguments₁ key = argumentValue arguments₂ key) :
    Agree template ⟨arguments₁, registry, select⟩ ⟨arguments₂, registry, select⟩ where
  values := values
  formatters _ _ _ _ _ := rfl
  rules block mem _ := by
    have named : block.key ∈ template.keys := Template.mem_keys_iff.2 ⟨.plural block, mem, rfl⟩
    show select (pluralOperand (some (argumentValue arguments₁ block.key))) =
      select (pluralOperand (some (argumentValue arguments₂ block.key)))
    rw [values block.key named]

end Render

/-! ### Messages -/

section Messages

variable {arguments₁ arguments₂ : List Json}

/-- The arguments are read for the keys of the template only, whether it was cached or not. -/
theorem Cache.render_congr {cache : Cache} {select : Selector} {registry : Registry} {text : Text}
    (h : ∀ entry, (cache.resolve text).1 = .ok entry → ∀ key ∈ entry.template.keys,
      argumentValue arguments₁ key = argumentValue arguments₂ key) :
    cache.render select registry text arguments₁ =
      cache.render select registry text arguments₂ := by
  unfold Cache.render
  generalize cache.resolve text = resolved at h ⊢
  obtain ⟨entry, after⟩ := resolved
  cases entry with
  | error fault => rfl
  | ok entry =>
      have agree : Agree entry.template ⟨arguments₁, registry, select⟩
          ⟨arguments₂, registry, select⟩ := Agree.of_values (h entry rfl)
      exact congrArg (fun shown => (Except.ok shown, after)) (Setting.render_congr agree)

/-- A text is translated the same for arguments that agree on the keys of its template. -/
theorem Translator.translate?_congr {translator : Translator} {text : Text}
    (h : ∀ template, (translator.prepare text).1 = .ok template → ∀ key ∈ template.keys,
      argumentValue arguments₁ key = argumentValue arguments₂ key) :
    translator.translate? text arguments₁ = translator.translate? text arguments₂ := by
  have same : translator.cache.render translator.select translator.registry text arguments₁ =
      translator.cache.render translator.select translator.registry text arguments₂ := by
    refine Cache.render_congr fun entry resolved => h entry.template ?_
    show ((translator.cache.resolve text).1).map CacheEntry.template = .ok entry.template
    rw [resolved]
    rfl
  rw [translate?, translate?, same]

/-- The keys that a message reports are those of the template that is shown. -/
theorem Messages.argumentKeys_of_prepare {messages : Messages} {message : Message}
    {translator : Translator} {template : Template} (bound : messages.translator = some translator)
    (h : (translator.prepare message.template).1 = .ok template) :
    (messages.argumentKeys message).1 = template.keys := by
  simp only [argumentKeys, inspect, withTranslator, bound]
  generalize translator.prepare message.template = prepared at h
  obtain ⟨entry, after⟩ := prepared
  obtain rfl : entry = .ok template := h
  rfl

/-- The arguments of a message are read for the keys that it reports only. Both ways to call it do
the same, down to what is cached afterwards. -/
theorem Messages.call_congr {messages : Messages} {message : Message}
    (h : ∀ key ∈ (messages.argumentKeys message).1,
      argumentValue arguments₁ key = argumentValue arguments₂ key) :
    messages.call? message arguments₁ = messages.call? message arguments₂ ∧
      messages.call message arguments₁ = messages.call message arguments₂ := by
  obtain ⟨translator, templates⟩ := messages
  cases translator with
  | none => exact ⟨rfl, rfl⟩
  | some translator =>
      have same : translator.translate? message.template arguments₁ =
          translator.translate? message.template arguments₂ := by
        refine Translator.translate?_congr fun template prepared key mem => h key ?_
        rw [argumentKeys_of_prepare rfl prepared]
        exact mem
      rw [call?, call, call?, call, withTranslator, withTranslator, withTranslator, withTranslator]
      simp only [Translator.translate, same, and_self]

end Messages

/-! ### What influences a rendering -/

/-- **A rendering depends on what the template names.** Settings that agree on a template show the
same text: it takes the value of each of its keys, null where there is none, the formatters under
the names of its steps, switch tables apart, and what the rules say about the numbers of its blocks,
truth values apart.

A message shows the same for arguments that agree on the keys it reports, so a user who supplies
these has supplied all that can matter. -/
theorem rendering_depends_on_names :
    (∀ (template : Template) (a b : Setting), Agree template a b →
      a.render template = b.render template) ∧
    ∀ (messages : Messages) (message : Message) (arguments₁ arguments₂ : List Json),
      (∀ key ∈ (messages.argumentKeys message).1,
        argumentValue arguments₁ key = argumentValue arguments₂ key) →
      messages.call? message arguments₁ = messages.call? message arguments₂ ∧
        messages.call message arguments₁ = messages.call message arguments₂ := by
  refine ⟨fun template a b agree => Setting.render_congr agree, ?_⟩
  intro messages message arguments₁ arguments₂ agree
  exact Messages.call_congr agree

namespace Setting

/-- A template with a switch table, a formatter and two blocks. -/
def named : Template :=
  { parts := [.placeholder ⟨"0".toList, none, false, ["{x:y,*:z}".toList, "mark".toList]⟩,
      .plural ⟨"1".toList, { one := some "+".toList, other := some "-".toList }⟩,
      .plural ⟨"2".toList, { zero := some "none".toList, other := some "??more".toList }⟩] }

/-- Adds an exclamation mark. -/
def exclaim : Formatter := fun value => .string (value.display ++ ['!'])

/-- Arguments by position, the last one missing. -/
def byPosition : Setting where
  arguments := [.string "x".toList, .bool true]
  registry := Registry.ofList [("mark".toList, exclaim)]
  select _ := .other

/-- Arguments by name, the last one `null`, with a formatter under the name of the switch table and
rules that know of one and two. -/
def byName : Setting where
  arguments := [.object [("0".toList, .string "x".toList), ("1".toList, .bool true),
    ("2".toList, .null), ("3".toList, .bool false)]]
  registry := Registry.ofList [("{x:y,*:z}".toList, fun _ => .null), ("mark".toList, exclaim)]
  select x := if x == 1.0 then .one else if x == 2.0 then .two else .other

theorem agree_on_named : Agree named byPosition byName where
  values := by
    have listed : named.keys = ["0".toList, "1".toList, "2".toList] := by decide
    rw [listed]
    intro key mem
    rcases mem with _ | ⟨_, _ | ⟨_, _ | ⟨_, mem⟩⟩⟩
    · rfl
    · rfl
    · rfl
    · cases mem
  formatters := by
    intro p mem step inSteps notSwitch
    rcases mem with _ | ⟨_, _ | ⟨_, _ | ⟨_, mem⟩⟩⟩
    · rcases inSteps with _ | ⟨_, _ | ⟨_, inSteps⟩⟩
      · exact absurd notSwitch (by decide)
      · rfl
      · cases inSteps
    · cases mem
  rules := by
    intro block mem noTruth
    rcases mem with _ | ⟨_, _ | ⟨_, _ | ⟨_, mem⟩⟩⟩
    · exact absurd rfl (noTruth true)
    · rfl
    · cases mem

theorem rendering_by_position_and_name :
    Agree named byPosition byName ∧ byPosition.render named = byName.render named ∧
      byName.render named = "y!+more".toList :=
  ⟨agree_on_named, rendering_depends_on_names.1 named byPosition byName agree_on_named, rfl⟩

end Setting

end LocaleText
