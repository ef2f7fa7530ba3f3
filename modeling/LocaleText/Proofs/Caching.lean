import LocaleText.Proofs.Traversal
import LocaleText.Translator
import Mathlib.Data.List.Dedup
import Mathlib.Data.List.DropRight
import Mathlib.Data.List.Induction

/-!
# LocaleText.Proofs.Caching

**A cache cannot be seen.** Whatever has been asked of a cache before, it gives for a text what
reading the text afresh gives, and it holds exactly the texts that have been read with success since
it was last cleared (`rememberedTexts`). What can be told is only which look-ups gave the same
entry, by its serial number: those of one text that no clearing separates.

A step changes a cache in one of three ways (`Cache.perform_cases`): not at all, by a new entry with
the next serial number, or by dropping all entries. Everything else is read off that: `Cache.Sound`
ties each entry to what its text parses to, and `Cache.find?_after` says of an entry that it is old
or has a number not given out before. `cache_is_invisible` puts it together, for translators too.
-/

namespace LocaleText

namespace Cache

/-! ### Runs -/

/-- What can be asked of a cache: the entry of a text, its rendering, whether it has an entry, and
to drop all entries. A history of a cache is a list of these. -/
inductive Step where
  | resolve (text : Text)
  | render (select : Selector) (registry : Registry) (text : Text) (arguments : List Json)
  | contains (text : Text)
  | clear

/-- What a cache answers, with an answer for each kind of step. The entry itself is in the answer,
so that its serial number can be compared with others. -/
inductive Answer where
  | entry (result : Except TemplateError CacheEntry)
  | rendering (result : Except TemplateError Text)
  | known (found : Bool)
  | cleared

/-- Whether the answer is a fault. -/
def Answer.isFault : Answer → Bool
  | entry (.error _) => true
  | rendering (.error _) => true
  | _ => false

/-- The answer to a step and the cache after it. -/
def perform (cache : Cache) : Step → Answer × Cache
  | .resolve text =>
    let (result, after) := cache.resolve text
    (.entry result, after)
  | .render select registry text arguments =>
    let (result, after) := cache.render select registry text arguments
    (.rendering result, after)
  | .contains text => (.known (cache.contains text), cache)
  | .clear => (.cleared, cache.clear)

/-- The cache after some steps. -/
def after (cache : Cache) (steps : List Step) : Cache :=
  steps.foldl (fun cache step => (cache.perform step).2) cache

/-- Whether the step drops all entries. -/
def Step.isClear : Step → Bool
  | clear => true
  | _ => false

/-- The text that a step reads. -/
def Step.text? : Step → Option Text
  | resolve text => some text
  | render _ _ text _ => some text
  | _ => none

/-- The last of the steps, back to where the entries were dropped last. Steps before that leave no
trace in the entries. -/
def sinceClear (steps : List Step) : List Step :=
  steps.rtakeWhile fun step => !step.isClear

/-- The texts that have been read with success since the entries were dropped last. -/
def rememberedTexts (options : ParseOptions) (steps : List Step) : List Text :=
  ((sinceClear steps).filterMap Step.text?).filter fun text => (Template.parse options text).isOk

/-- The first step is taken first: inductions over a history go this way, with the cache general. -/
theorem after_cons (cache : Cache) (step : Step) (steps : List Step) :
    cache.after (step :: steps) = (cache.perform step).2.after steps := rfl

/-- The last step is taken last: what a cache holds is told from the history that leads to it. -/
theorem after_concat (cache : Cache) (steps : List Step) (step : Step) :
    cache.after (steps ++ [step]) = ((cache.after steps).perform step).2 := by
  rw [after, List.foldl_append]
  rfl

/-! ### One step -/

/-- The cache with an entry made for a text. -/
def enter (cache : Cache) (text : Text) (template : Template) : Cache :=
  { cache with
    entries := cache.entries.insert text { template, serial := cache.made }
    made := cache.made + 1 }

/-- A look-up returns the entry that is there, the fault of the text, or a new entry. Nothing else
about looking up is used below: each lemma on caches goes through these three cases. -/
theorem resolve_cases (cache : Cache) (text : Text) :
    (∃ entry, cache.entries.find? text = some entry ∧ cache.resolve text = (.ok entry, cache)) ∨
    (∃ fault, cache.entries.find? text = none ∧
      Template.parse cache.options text = .error fault ∧
      cache.resolve text = (.error fault, cache)) ∨
    ∃ template, cache.entries.find? text = none ∧
      Template.parse cache.options text = .ok template ∧
      cache.resolve text = (.ok { template, serial := cache.made }, cache.enter text template) := by
  unfold resolve
  cases found : cache.entries.find? text with
  | some entry => exact .inl ⟨entry, rfl, rfl⟩
  | none =>
      cases read : Template.parse cache.options text with
      | error fault => exact .inr (.inl ⟨fault, rfl, rfl, rfl⟩)
      | ok template => exact .inr (.inr ⟨template, rfl, rfl, rfl⟩)

/-- The cache after a step that reads a text is the one after looking the text up. Rendering does
with the entry what it likes; the cache is as if it had been looked up only. -/
theorem perform_of_text? {cache : Cache} {step : Step} {text : Text} (h : step.text? = some text) :
    (cache.perform step).2 = (cache.resolve text).2 := by
  cases step with
  | resolve other => cases h; rfl
  | render select registry other arguments => cases h; rfl
  | contains other => cases h
  | clear => cases h

/-- **A step** drops all entries, leaves a cache as it is, or makes one entry. An entry is made only
for a text that has none and that parses, and it gets the number that is next. -/
theorem perform_cases (cache : Cache) (step : Step) :
    (step = .clear ∧ (cache.perform step).2 = cache.clear) ∨
    (step ≠ .clear ∧ (cache.perform step).2 = cache) ∨
    ∃ text template, step ≠ .clear ∧ cache.entries.find? text = none ∧
      Template.parse cache.options text = .ok template ∧
      (cache.perform step).2 = cache.enter text template := by
  cases step with
  | clear => exact .inl ⟨rfl, rfl⟩
  | contains text => exact .inr (.inl ⟨nofun, rfl⟩)
  | resolve text | render select registry text arguments =>
      rw [perform_of_text? rfl]
      rcases cache.resolve_cases text with ⟨entry, -, resolved⟩ | ⟨fault, -, -, resolved⟩ |
        ⟨template, absent, read, resolved⟩
      · exact .inr (.inl ⟨nofun, by rw [resolved]⟩)
      · exact .inr (.inl ⟨nofun, by rw [resolved]⟩)
      · exact .inr (.inr ⟨text, template, nofun, absent, read, by rw [resolved]⟩)

/-- No step changes how texts are read, so that the whole history can speak of one reading. -/
theorem options_perform (cache : Cache) (step : Step) :
    (cache.perform step).2.options = cache.options := by
  rcases cache.perform_cases step with ⟨-, same⟩ | ⟨-, same⟩ | ⟨text, template, -, -, -, same⟩
  · rw [same, clear]
  · rw [same]
  · rw [same, enter]

theorem options_after (cache : Cache) (steps : List Step) :
    (cache.after steps).options = cache.options := by
  induction steps generalizing cache with
  | nil => rfl
  | cons step steps ih => rw [after_cons, ih, options_perform]

/-! ### Entries and what their texts parse to -/

/-- Every entry is what its text parses to, and no number is given out twice. This is the invariant
of a cache: a new one has it, and every step keeps it. -/
structure Sound (cache : Cache) : Prop where
  /-- An entry holds what its text parses to. -/
  parsed : ∀ {text entry}, cache.entries.find? text = some entry →
    Template.parse cache.options text = .ok entry.template
  /-- The numbers of the entries have been given out. -/
  numbered : ∀ {text entry}, cache.entries.find? text = some entry → entry.serial < cache.made
  /-- Entries of different texts have different numbers. -/
  apart : ∀ {text text' entry entry'}, cache.entries.find? text = some entry →
    cache.entries.find? text' = some entry' → entry.serial = entry'.serial → text = text'

/-- A cache without entries is sound for want of them. -/
theorem sound_new (options : ParseOptions) : (new options).Sound where
  parsed := nofun
  numbered := nofun
  apart := nofun

/-- An entry of a cache to which one was added is the new one or was there before. -/
theorem find?_enter {cache : Cache} {text key : Text} {template : Template} {entry : CacheEntry}
    (h : (cache.enter text template).entries.find? key = some entry) :
    (key = text ∧ entry = { template, serial := cache.made }) ∨
      cache.entries.find? key = some entry := by
  simp only [enter, Table.find?_insert] at h
  split at h
  · next same =>
      cases h
      exact .inl ⟨same.symm, rfl⟩
  · exact .inr h

/-- A new entry keeps a cache sound. Its number is the next one, which no entry has yet; so it is
apart from all others. -/
theorem Sound.enter {cache : Cache} (sound : cache.Sound) {text : Text} {template : Template}
    (read : Template.parse cache.options text = .ok template) :
    (cache.enter text template).Sound where
  parsed h := by
    rcases find?_enter h with ⟨rfl, rfl⟩ | old
    · exact read
    · exact sound.parsed old
  numbered h := by
    rcases find?_enter h with ⟨rfl, rfl⟩ | old
    · exact Nat.lt_succ_self _
    · exact Nat.lt_succ_of_lt (sound.numbered old)
  apart h h' same := by
    rcases find?_enter h with ⟨rfl, rfl⟩ | old <;> rcases find?_enter h' with ⟨rfl, rfl⟩ | old'
    · rfl
    · exact absurd same (Nat.ne_of_gt (sound.numbered old'))
    · exact absurd same (Nat.ne_of_lt (sound.numbered old))
    · exact sound.apart old old' same

/-- **Every step** keeps a cache sound: the three cases of a step are those of the invariant. -/
theorem Sound.perform {cache : Cache} (sound : cache.Sound) (step : Step) :
    (cache.perform step).2.Sound := by
  rcases cache.perform_cases step with ⟨-, same⟩ | ⟨-, same⟩ | ⟨text, template, -, -, read, same⟩
  · rw [same]
    exact ⟨nofun, nofun, nofun⟩
  · rwa [same]
  · rw [same]
    exact sound.enter read

/-- **A whole run** keeps a cache sound, by induction on its steps. -/
theorem Sound.after {cache : Cache} (sound : cache.Sound) (steps : List Step) :
    (cache.after steps).Sound := by
  induction steps generalizing cache with
  | nil => exact sound
  | cons step steps ih => exact ih (sound.perform step)

/-- A sound cache gives what the text parses to, or the fault with which it does not parse. In
particular an old entry gives what reading the text again would give. -/
theorem Sound.resolve_fst {cache : Cache} (sound : cache.Sound) (text : Text) :
    (cache.resolve text).1.map CacheEntry.template = Template.parse cache.options text := by
  rcases cache.resolve_cases text with ⟨entry, found, resolved⟩ | ⟨fault, -, read, resolved⟩ |
    ⟨template, -, read, resolved⟩
  · rw [resolved, sound.parsed found]
    rfl
  · rw [resolved, read]
    rfl
  · rw [resolved, read]
    rfl

/-- A sound cache renders what the text parses to, with the selector and the formatters of the call.
These are no part of an entry, so that an entry serves calls with any others. -/
theorem Sound.render_fst {cache : Cache} (sound : cache.Sound) (select : Selector)
    (registry : Registry) (text : Text) (arguments : List Json) :
    (cache.render select registry text arguments).1 =
      (Template.parse cache.options text).map fun template =>
        template.render select registry (Arguments.ofList arguments) := by
  rw [← sound.resolve_fst text, except_map_map]
  rfl

/-! ### Which texts have an entry -/

/-- Looking a text up makes it known when it parses, and no other. A text that does not parse is
read anew each time. -/
theorem contains_resolve (cache : Cache) (text key : Text) :
    (cache.resolve text).2.contains key = true ↔
      cache.contains key = true ∨
        (key = text ∧ (Template.parse cache.options text).isOk = true) := by
  rcases cache.resolve_cases text with ⟨entry, found, resolved⟩ | ⟨fault, -, read, resolved⟩ |
    ⟨template, -, read, resolved⟩
  · rw [resolved]
    refine ⟨.inl, fun h => ?_⟩
    rcases h with h | ⟨rfl, -⟩
    · exact h
    · show (cache.entries.find? key).isSome = true
      rw [found]
      rfl
  · rw [resolved, read]
    exact ⟨.inl, fun h => h.elim id fun h => nomatch h.2⟩
  · rw [resolved, read]
    show (cache.entries.insert text _).contains key = true ↔ _
    rw [Table.contains_insert, Bool.or_eq_true, beq_iff_eq, or_comm, eq_comm (a := text)]
    exact or_congr_right ⟨fun same => ⟨same, rfl⟩, And.left⟩

/-- The texts remembered after one more step: none after the entries are dropped, and otherwise
those from before and the text that the step reads, if it parses. This is the step of the induction
that ties the entries to the history. -/
theorem mem_rememberedTexts_concat {options : ParseOptions} {steps : List Step} {step : Step}
    {key : Text} :
    key ∈ rememberedTexts options (steps ++ [step]) ↔
      step ≠ .clear ∧ (key ∈ rememberedTexts options steps ∨
        (step.text? = some key ∧ (Template.parse options key).isOk = true)) := by
  rw [rememberedTexts, sinceClear, List.rtakeWhile_concat]
  cases step with
  | clear => simp [Step.isClear]
  | contains text => simp [Step.isClear, Step.text?, rememberedTexts, sinceClear]
  | resolve text | render select registry text arguments =>
      simp only [Step.isClear, Step.text?, rememberedTexts, sinceClear, Bool.not_false, if_true,
        List.filterMap_append, List.filterMap_cons, List.filterMap_nil, List.mem_filter,
        List.mem_append, List.mem_singleton, Option.some.injEq, ne_eq, reduceCtorEq,
        not_false_eq_true, true_and, or_and_right, eq_comm (a := text)]

/-- **The texts with an entry** are the texts remembered. -/
theorem contains_after {options : ParseOptions} {steps : List Step} {key : Text} :
    ((new options).after steps).contains key = true ↔ key ∈ rememberedTexts options steps := by
  induction steps using List.reverseRecOn with
  | nil => exact ⟨nofun, nofun⟩
  | append_singleton steps step ih =>
      have read (text : Text) : (((new options).after steps).resolve text).2.contains key = true ↔
          ((new options).after steps).contains key = true ∨
            (key = text ∧ (Template.parse options text).isOk = true) := by
        have h := ((new options).after steps).contains_resolve text key
        rwa [options_after] at h
      rw [after_concat, mem_rememberedTexts_concat, ← ih]
      cases step with
      | clear => exact ⟨nofun, fun h => absurd rfl h.1⟩
      -- Asking what is known adds nothing, so the last step can only be one that looks a text up.
      | contains text =>
          refine ⟨fun h => ⟨nofun, .inl h⟩, fun h => ?_⟩
          rcases h.2 with known | ⟨other, -⟩
          · exact known
          · cases other
      | resolve text | render select registry text arguments =>
          rw [perform_of_text? rfl, read]
          refine Iff.trans (or_congr_right ⟨fun h => ?_, fun h => ?_⟩) (and_iff_right nofun).symm
          · obtain ⟨rfl, parses⟩ := h
            exact ⟨rfl, parses⟩
          · obtain ⟨same, parses⟩ := h
            cases same
            exact ⟨rfl, parses⟩

/-! ### Which entry is returned -/

/-- An entry stays where it is until the entries are dropped. -/
theorem find?_after_of_not_mem {cache : Cache} {text : Text} {entry : CacheEntry}
    {steps : List Step} (found : cache.entries.find? text = some entry) (kept : .clear ∉ steps) :
    (cache.after steps).entries.find? text = some entry := by
  induction steps generalizing cache with
  | nil => exact found
  | cons step steps ih =>
      obtain ⟨other, later⟩ := not_or.1 (mt List.mem_cons.2 kept)
      rw [after_cons]
      refine ih ?_ later
      rcases cache.perform_cases step with ⟨rfl, -⟩ | ⟨-, same⟩ |
        ⟨key, template, -, absent, -, same⟩
      · exact absurd rfl other
      · rwa [same]
      · have apart : key ≠ text := by
          rintro rfl
          rw [absent] at found
          cases found
        rw [same, enter, Table.find?_insert, if_neg apart]
        exact found

/-- Numbers are never taken back, not even when the entries are dropped. -/
theorem made_le_after (cache : Cache) (steps : List Step) :
    cache.made ≤ (cache.after steps).made := by
  induction steps generalizing cache with
  | nil => exact Nat.le_refl _
  | cons step steps ih =>
      refine Nat.le_trans ?_ (ih (cache.perform step).2)
      rcases cache.perform_cases step with ⟨-, same⟩ | ⟨-, same⟩ | ⟨text, template, -, -, -, same⟩
      · rw [same, clear]
      · rw [same]
      · rw [same]
        exact Nat.le_succ _

/-- **Where an entry comes from.** It has been there all the time, or it has a number that had not
been given out. The two cases exclude each other in a sound cache, where the numbers of all entries
have been given out, so the number alone tells whether an entry is an old one. -/
theorem find?_after {cache : Cache} {text : Text} {entry : CacheEntry} {steps : List Step}
    (found : (cache.after steps).entries.find? text = some entry) :
    (cache.entries.find? text = some entry ∧ .clear ∉ steps) ∨ cache.made ≤ entry.serial := by
  induction steps generalizing cache with
  | nil => exact .inl ⟨found, List.not_mem_nil⟩
  | cons step steps ih =>
      rw [after_cons] at found
      rcases ih found with ⟨found, kept⟩ | fresh
      · rcases cache.perform_cases step with ⟨-, same⟩ | ⟨other, same⟩ |
          ⟨key, template, other, -, -, same⟩
        · rw [same] at found
          cases found
        · rw [same] at found
          exact .inl ⟨found, fun mem => (List.mem_cons.1 mem).elim (other ·.symm) kept⟩
        · rw [same] at found
          rcases find?_enter found with ⟨-, rfl⟩ | old
          · exact .inr (Nat.le_refl _)
          · exact .inl ⟨old, fun mem => (List.mem_cons.1 mem).elim (other ·.symm) kept⟩
      · exact .inr (Nat.le_trans (cache.made_le_after [step]) fresh)

/-- A look-up that succeeds leaves its entry in the cache, whether it found the entry there or made
it. -/
theorem find?_resolve {cache : Cache} {text : Text} {entry : CacheEntry}
    (h : (cache.resolve text).1 = .ok entry) :
    (cache.resolve text).2.entries.find? text = some entry := by
  rcases cache.resolve_cases text with ⟨old, found, resolved⟩ | ⟨fault, -, -, resolved⟩ |
    ⟨template, -, -, resolved⟩
  · rw [resolved] at h ⊢
    cases h
    exact found
  · rw [resolved] at h
    cases h
  · rw [resolved] at h ⊢
    cases h
    rw [enter, Table.find?_insert, if_pos rfl]

/-- **Two look-ups return the same entry** exactly when they are of one text and the entries have
not been dropped between them. Any steps may be between them, and the cache may have any sound
history before the first. -/
theorem Sound.serial_eq_iff {cache : Cache} (sound : cache.Sound) {first second : Text}
    {between : List Step} {one other : CacheEntry} (h : (cache.resolve first).1 = .ok one)
    (h' : (((cache.resolve first).2.after between).resolve second).1 = .ok other) :
    (one.serial = other.serial ↔ first = second ∧ .clear ∉ between) ∧
      (one.serial = other.serial → one = other) := by
  have start : (cache.resolve first).2.Sound := sound.perform (.resolve first)
  have here := find?_resolve h
  have there : ((cache.resolve first).2.after (between ++ [.resolve second])).entries.find? second =
      some other := by
    rw [after_concat]
    exact find?_resolve h'
  -- The second entry is the first one, unless its number is new.
  have right (same : one.serial = other.serial) : first = second ∧ .clear ∉ between := by
    rcases find?_after there with ⟨old, kept⟩ | fresh
    · exact ⟨start.apart here old same, fun mem => kept (List.mem_append_left _ mem)⟩
    · exact absurd (start.numbered here) (Nat.not_lt.2 (same ▸ fresh))
  have left (same : first = second ∧ .clear ∉ between) : one = other := by
    obtain ⟨rfl, kept⟩ := same
    have kept : .clear ∉ between ++ [.resolve first] := fun mem =>
      (List.mem_append.1 mem).elim kept nofun
    rw [find?_after_of_not_mem here kept] at there
    exact Option.some.inj there
  exact ⟨⟨right, fun same => congrArg _ (left same)⟩, fun same => left (right same)⟩

/-- A look-up that fails makes no entry, so that a text that does not parse uses up no number. -/
theorem resolve_snd_of_error {cache : Cache} {text : Text} {fault : TemplateError}
    (h : (cache.resolve text).1 = .error fault) : (cache.resolve text).2 = cache := by
  rcases cache.resolve_cases text with ⟨entry, -, resolved⟩ | ⟨_, -, -, resolved⟩ |
    ⟨template, -, -, resolved⟩
  · rw [resolved]
  · rw [resolved]
  · rw [resolved] at h
    cases h

/-- A step that is answered with a fault leaves the cache as it was. -/
theorem perform_of_isFault {cache : Cache} {step : Step}
    (h : (cache.perform step).1.isFault = true) : (cache.perform step).2 = cache := by
  cases step with
  | clear => cases h
  | contains text => cases h
  | resolve text =>
      change (Answer.entry (cache.resolve text).1).isFault = true at h
      cases result : (cache.resolve text).1 with
      | ok entry => rw [result] at h; cases h
      | error fault => exact resolve_snd_of_error result
  | render select registry text arguments =>
      change (Answer.rendering ((cache.resolve text).1.map _)).isFault = true at h
      cases result : (cache.resolve text).1 with
      | ok entry => rw [result] at h; cases h
      | error fault => exact resolve_snd_of_error result

/-- The number of entries is that of the different texts remembered. Both are lists without
repetition of the same texts, so that one is a permutation of the other. -/
theorem size_after (options : ParseOptions) (steps : List Step) :
    ((new options).after steps).size = (rememberedTexts options steps).dedup.length := by
  have same : ((new options).after steps).entries.names.Perm
      (rememberedTexts options steps).dedup := by
    refine (List.perm_ext_iff_of_nodup (Table.nodup_names _) (List.nodup_dedup _)).2 fun key => ?_
    rw [List.mem_dedup, ← contains_after, ← Table.contains_iff_mem_names]
    rfl
  rw [← same.length_eq, Table.names, List.length_map]
  rfl

end Cache

/-! ### Translators -/

namespace Translator

/-- What can be asked of a translator: to render a text or return it as it is, to render it or say
what is wrong with it, and to read it. -/
inductive Call where
  | translate (text : Text) (arguments : List Json)
  | translate? (text : Text) (arguments : List Json)
  | prepare (text : Text)

/-- The text of a call. -/
def Call.text : Call → Text
  | translate text _ => text
  | translate? text _ => text
  | prepare text => text

/-- The translator after a call. -/
def afterCall (translator : Translator) : Call → Translator
  | .translate text arguments => (translator.translate text arguments).2
  | .translate? text arguments => (translator.translate? text arguments).2
  | .prepare text => (translator.prepare text).2

/-- The translator after some calls. -/
def after (translator : Translator) (calls : List Call) : Translator :=
  calls.foldl afterCall translator

/-- A text is translated as it is rendered, and is returned as it is when it is not. The fault is
lost: who wants to see it asks for the rendering. -/
theorem translate_eq (translator : Translator) (text : Text) (arguments : List Json) :
    translator.translate text arguments =
      (match (translator.translate? text arguments).1 with
        | .ok rendered => rendered
        | .error _ => text,
       (translator.translate? text arguments).2) := by
  rw [translate]
  generalize translator.translate? text arguments = result
  obtain ⟨rendered, after⟩ := result
  cases rendered <;> rfl

/-- A call looks its text up in the cache and changes nothing else. With this the history of a
translator is one of its cache, and the lemmas on caches apply. -/
theorem afterCall_eq (translator : Translator) (call : Call) :
    translator.afterCall call =
      { translator with cache := (translator.cache.resolve call.text).2 } := by
  cases call with
  | translate text arguments =>
      rw [afterCall, translate_eq]
      rfl
  | translate? text arguments => rfl
  | prepare text => rfl

/-- After some calls, a translator is what it was with the cache that has seen their texts. -/
theorem after_eq (translator : Translator) (calls : List Call) :
    translator.after calls =
      { translator with
        cache := translator.cache.after (calls.map fun call => .resolve call.text) } := by
  induction calls generalizing translator with
  | nil => rfl
  | cons call calls ih =>
      show (translator.afterCall call).after calls = _
      rw [ih, afterCall_eq]
      rfl

variable {translator : Translator}

/-- Reading a text through a sound cache is reading it afresh. -/
theorem prepare_fst (sound : translator.cache.Sound) (text : Text) :
    (translator.prepare text).1 = Template.parse translator.cache.options text :=
  sound.resolve_fst text

/-- Rendering a text through a sound cache is rendering what it parses to, or its fault. -/
theorem translate?_fst (sound : translator.cache.Sound) (text : Text) (arguments : List Json) :
    (translator.translate? text arguments).1 =
      (Template.parse translator.cache.options text).map fun template =>
        template.render translator.select translator.registry (Arguments.ofList arguments) :=
  sound.render_fst translator.select translator.registry text arguments

/-- Translating a text through a sound cache is rendering what it parses to, and returning the text
where it does not parse. -/
theorem translate_fst (sound : translator.cache.Sound) (text : Text) (arguments : List Json) :
    (translator.translate text arguments).1 =
      match Template.parse translator.cache.options text with
      | .ok template =>
        template.render translator.select translator.registry (Arguments.ofList arguments)
      | .error _ => text := by
  rw [translate_eq, translate?_fst sound]
  cases Template.parse translator.cache.options text <;> rfl

end Translator

/-! ### Caches and translators -/

/-- What a cache gives and holds after some steps. -/
structure Cache.Exact (options : ParseOptions) (steps : List Cache.Step) (cache : Cache) :
    Prop where
  /-- A look-up gives what the text parses to, or its fault. -/
  resolves : ∀ text, (cache.resolve text).1.map CacheEntry.template = Template.parse options text
  /-- A rendering is that of what the text parses to. -/
  renders : ∀ select registry text arguments, (cache.render select registry text arguments).1 =
    (Template.parse options text).map fun template =>
      template.render select registry (Arguments.ofList arguments)
  /-- The texts read with success since the entries were dropped last have an entry, no other. -/
  holds : ∀ text, cache.contains text = true ↔ text ∈ Cache.rememberedTexts options steps
  /-- There are as many entries as different texts of that kind. -/
  counts : cache.size = (Cache.rememberedTexts options steps).dedup.length
  /-- A fault leaves the cache as it was. -/
  fails : ∀ step, (cache.perform step).1.isFault = true → (cache.perform step).2 = cache
  /-- Two look-ups that succeed return the same entry exactly when they are of the same text and the
  entries have not been dropped between them. -/
  shares : ∀ first between second one other, (cache.resolve first).1 = .ok one →
    (((cache.resolve first).2.after between).resolve second).1 = .ok other →
      (one.serial = other.serial ↔ first = second ∧ .clear ∉ between) ∧
        (one.serial = other.serial → one = other)

/-- What a translator answers, whatever it has been asked before. -/
structure Translator.AnswersLike (fresh translator : Translator) : Prop where
  /-- Texts are read alike. -/
  prepares : ∀ text, (translator.prepare text).1 = (fresh.prepare text).1
  /-- Texts are rendered alike, and have the same faults. -/
  renders : ∀ text arguments,
    (translator.translate? text arguments).1 = (fresh.translate? text arguments).1
  /-- Texts are translated alike. -/
  translates : ∀ text arguments,
    (translator.translate text arguments).1 = (fresh.translate text arguments).1
  /-- A text that parses is rendered, and exactly those that do not are returned unrendered. -/
  unrendered : ∀ text arguments, (translator.translate text arguments).1 =
    match Template.parse fresh.cache.options text with
    | .ok template => template.render fresh.select fresh.registry (Arguments.ofList arguments)
    | .error _ => text
  /-- A fault is reported for those that do not parse. -/
  faults : ∀ text arguments fault, (translator.translate? text arguments).1 = .error fault ↔
    Template.parse fresh.cache.options text = .error fault

/-- After any history that starts without entries, a cache is exact for that history. Each field is
one of the lemmas above, at the cache that the history leads to. -/
theorem Cache.exact_after (options : ParseOptions) (steps : List Cache.Step) :
    Cache.Exact options steps ((Cache.new options).after steps) := by
  have sound := (Cache.sound_new options).after steps
  have same : ((Cache.new options).after steps).options = options := Cache.options_after _ steps
  constructor
  · intro text
    rw [sound.resolve_fst, same]
  · intro select registry text arguments
    rw [sound.render_fst, same]
  · intro text
    exact Cache.contains_after
  · exact Cache.size_after options steps
  · intro step
    exact Cache.perform_of_isFault
  · intro first between second one other
    exact sound.serial_eq_iff

/-- Whatever a translator with a sound cache has been asked, it answers as it would have at first.
Only its cache has changed, into another sound one with the same options. -/
theorem Translator.answersLike_after {fresh : Translator} (sound : fresh.cache.Sound)
    (calls : List Translator.Call) : AnswersLike fresh (fresh.after calls) := by
  rw [after_eq]
  -- Of the calls nothing counts but that they are steps of the cache.
  generalize (calls.map fun call => Cache.Step.resolve call.text) = steps
  have kept : (fresh.cache.after steps).Sound := sound.after steps
  have same := fresh.cache.options_after steps
  have rendering (text : Text) (arguments : List Json) :
      (translate? { fresh with cache := fresh.cache.after steps } text arguments).1 =
        (Template.parse fresh.cache.options text).map fun template =>
          template.render fresh.select fresh.registry (Arguments.ofList arguments) := by
    rw [translate?_fst kept]
    simp only [same]
  have translation (text : Text) (arguments : List Json) :
      (translate { fresh with cache := fresh.cache.after steps } text arguments).1 =
        match Template.parse fresh.cache.options text with
        | .ok template => template.render fresh.select fresh.registry (Arguments.ofList arguments)
        | .error _ => text := by
    rw [translate_fst kept]
    simp only [same]
  constructor
  · intro text
    rw [prepare_fst kept, prepare_fst sound, same]
  · intro text arguments
    rw [rendering, translate?_fst sound]
  · intro text arguments
    rw [translation, translate_fst sound]
  · exact translation
  · intro text arguments fault
    rw [rendering]
    cases Template.parse fresh.cache.options text with
    | ok template => exact ⟨nofun, nofun⟩
    | error other => exact ⟨fun h => by cases h; rfl, fun h => by cases h; rfl⟩

/-- **A cache cannot be seen.** Over any run, a cache gives for a text what the text parses to and
holds exactly the texts that the run has made it remember; so a translator answers as a fresh one
does, whatever it was asked before, and leaves a text unrendered exactly when it does not parse.

What can be told, namely whether two look-ups returned the same entry, is settled by the texts and
by whether the entries have been dropped in between (`Cache.Exact.shares`). -/
theorem cache_is_invisible (options : ParseOptions) :
    (∀ steps, Cache.Exact options steps ((Cache.new options).after steps)) ∧
      ∀ locale select registry calls,
        Translator.AnswersLike (Translator.withSelector locale select registry options)
          ((Translator.withSelector locale select registry options).after calls) := by
  refine ⟨Cache.exact_after options, fun locale select registry calls => ?_⟩
  exact Translator.answersLike_after (Cache.sound_new options) calls

end LocaleText
