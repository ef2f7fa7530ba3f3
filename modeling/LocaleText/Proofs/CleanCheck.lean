import LocaleText.Proofs.Verdict

/-!
# LocaleText.Proofs.CleanCheck

**What a clean check is good for.** A check and a rendering load the same locales from the same
packs, whatever default locale each of them has (`Command.Invocation.Loads.render`). If no locale
lacks a message of the fallback of the check, every locale serves these messages itself, and since
loaded messages never fail, they can be rendered (`Command.render_own`).
-/

namespace LocaleText

/-- The default locale does not matter for what is loaded: it is chosen when everything has been
read. Locales and options are therefore the same under any other. -/
theorem Library.ofConfig_defaultLocale {disk : Disk} {config : Config} {base : Text}
    {library : Library} (made : ofConfig disk config base = .ok library) (code : Text) :
    ∃ other, ofConfig disk { config with defaultLocale := code } base = .ok other ∧
      other.catalogs = library.catalogs ∧ other.options = library.options := by
  rw [ofConfig, addDirectories] at made
  cases filled : (config.directories base).foldlM (addDirectory disk)
      (new config.registry config.parseOptions) with
  | error fault => rw [filled] at made; cases made
  | ok full =>
      rw [filled] at made
      cases made
      refine ⟨full.setDefault code, ?_, rfl, rfl⟩
      exact congrArg (Except.map fun library => library.setDefault code) filled

namespace Command

variable {disk : Disk} {config : Option Text} {library : Library}

/-- A rendering loads what a check loads, if both are given the same directory. The check may be
given a default locale of its own, which the rendering does not see. -/
theorem Invocation.Loads.render {request : CheckRequest} {order : RenderRequest}
    (loads : Invocation.Loads disk { config, action := .check request } library)
    (same : order.directory = request.directory) :
    ∃ other, Invocation.Loads disk { config, action := .render order } other ∧
      other.catalogs = library.catalogs ∧ other.options = library.options := by
  obtain ⟨read, base, configured, loaded⟩ := loads
  obtain ⟨other, made, catalogs, options⟩ :=
    Library.ofConfig_defaultLocale (loadLibrary_eq_ok_iff.1 loaded) read.defaultLocale
  have settings : Action.settings (.render order) read =
      { Action.settings (.check request) read with defaultLocale := read.defaultLocale } := by
    simp only [Action.settings, same]
  rw [← settings] at made
  exact ⟨other, ⟨read, base, configured, loadLibrary_eq_ok_iff.2 made⟩, catalogs, options⟩

namespace RenderRequest

variable {order : RenderRequest} {next : Library} {code : Text}

/-- A rendering that asks for a locale goes on with the library in which it is active. -/
theorem activate_eq (locale : order.locale = some code)
    (activated : library.activate code = (true, next)) : order.activate library = .ok next := by
  simp only [activate, locale, activated]

/-- Once the locale is active, the arguments are decoded and a message is found, all that is left to
a rendering is the call of the message. -/
theorem text_eq {arguments : List Json} {catalog : Catalog} {message : Message}
    (activated : order.activate library = .ok next) (active : next.activeCode? = some code)
    (decoded : order.arguments = .ok arguments)
    (served : next.message? order.key = some (catalog, message)) :
    order.text library =
      (catalog.messages.call? message arguments).1.mapError (.render order.key) := by
  simp only [text, bind, Except.bind, activated, active, decoded, served]

end RenderRequest

/-- **A locale that has a message** renders it itself, whatever the fallback is. The arguments have
to be readable; then nothing can fail, because the locale is loaded and loaded messages do not
(`Catalog.Loaded.call?_eq`). -/
theorem render_own (sound : library.Sound) {own : Catalog} (mem : own ∈ library.catalogs)
    {order : RenderRequest} (locale : order.locale = some own.code)
    (has : own.messages.contains order.key = true) {arguments : List Json}
    (decoded : order.arguments = .ok arguments) :
    ∃ message text, own.messages.find? order.key = some message ∧
      own.Renders library.options message arguments text ∧
      render library order = { output := [text] } := by
  obtain ⟨message, found⟩ := Messages.find?_of_contains has
  have inside := Messages.mem_toList_of_find? found
  have loaded := sound.loaded own mem
  refine ⟨message, _, found, loaded.renders inside arguments, ?_⟩
  obtain ⟨done, active⟩ := Library.activate_of_catalog? (sound.catalog?_of_mem mem)
  have next : (library.activate own.code).2.Sound := sound.perform (.activate own.code)
  obtain ⟨fallback, falls⟩ := next.exists_fallback active
  have served : (library.activate own.code).2.message? order.key = some (own, message) := by
    rw [Library.message?_eq active falls, Catalog.serve?, found]
    rfl
  have activated := RenderRequest.activate_eq locale (Prod.ext done rfl)
  have text := RenderRequest.text_eq activated (congrArg (Option.map Catalog.code) active) decoded
    served
  rw [render, text, loaded.call?_eq inside arguments]
  rfl

/-- **A clean check is good for rendering.** If a check has found that no locale lacks a message of
its fallback, then every message of that fallback can be rendered in every locale, with whatever
arguments: the rendering ends with status 0 and prints the locale's own message. What fallback the
rendering has does not matter.

The check has to be asked to fail for missing messages; otherwise its status says nothing about
them. The two commands share the disk, the configuration and the directory, and nothing else: the
rendering may be any command line that asks for the locale and a key of the fallback, with arguments
that can be read. -/
theorem clean_check_guarantees_rendering (wording : Wording) (disk : Disk)
    {arguments : List Text} {config : Option Text} {request : CheckRequest}
    (asked : Invocation.ofArguments arguments = .ok { config, action := .check request })
    (strict : request.failOnMissing = true) (clean : (run wording disk arguments).status = 0) :
    ∃ library fallback,
      Invocation.Loads disk { config, action := .check request } library ∧
      library.fallbackCatalog? = some fallback ∧
      ∀ own ∈ library.catalogs, ∀ (arguments' : List Text) (order : RenderRequest),
        Invocation.ofArguments arguments' = .ok { config, action := .render order } →
        order.directory = request.directory → order.locale = some own.code →
        fallback.messages.contains order.key = true →
        ∀ values, order.arguments = .ok values →
          ∃ message text, own.messages.find? order.key = some message ∧
            own.Renders library.options message values text ∧
            run wording disk arguments' = { status := 0, output := text ++ ['\n'] } := by
  rw [run_eq asked, Result.status_eq_zero_iff] at clean
  obtain ⟨library, loads, fallback, falls, approves⟩ := exists_approved clean
  refine ⟨library, fallback, loads, falls, ?_⟩
  intro own mem arguments' order asked' same locale has values decoded
  -- The library of the rendering is another one, but it has the same locales.
  obtain ⟨other, loads', catalogs, options⟩ := loads.render same
  have covered : own.messages.contains order.key = true :=
    approves.covers strict own mem order.key has
  obtain ⟨message, text, found, renders, rendered⟩ :=
    render_own loads'.reachable.sound (catalogs ▸ mem) locale covered decoded
  refine ⟨message, text, found, options ▸ renders, ?_⟩
  rw [run_eq asked', Invocation.run_render loads', rendered]
  simp [Result.outcome, unlines]

/-- Where the locale with fewer messages is the fallback of the check, the other one can render
them, although it is the fallback of the rendering. -/
theorem clean_check_guarantees_rendering_partly :
    let disk := partlyTranslatedDisk
    let wording : Wording := fun _ => []
    let config := some "config.json".toList
    let request : CheckRequest := { failOnMissing := true, defaultLocale := some "de".toList }
    let english := ["--config=config.json".toList, "render".toList, "title".toList,
      "--locale=en".toList]
    ∃ library fallback own,
      Invocation.Loads disk { config, action := .check request } library ∧
      library.fallbackCatalog? = some fallback ∧ own ∈ library.catalogs ∧
      library.codes = ["en".toList, "de".toList] ∧ own.code = "en".toList ∧
      fallback.messages.keys = ["title".toList] ∧
      ∃ message text, own.messages.find? "title".toList = some message ∧
        own.Renders library.options message [] text ∧
        run wording disk english = { status := 0, output := text ++ ['\n'] } := by
  intro disk wording config request english
  have asked : Invocation.ofArguments ["--config=config.json".toList, "check".toList,
      "--fail-on-missing".toList, "--default-locale=de".toList] =
        .ok { config, action := .check request } := rfl
  have asked' : Invocation.ofArguments english =
      .ok { config, action := .render { key := "title".toList, locale := some "en".toList } } := rfl
  obtain ⟨library, fallback, loads, falls, renders⟩ :=
    clean_check_guarantees_rendering wording disk asked rfl (by decide +kernel)
  -- What is loaded is found by going through the loading.
  have made : (loadConfig disk config).toOption.bind (fun read =>
      (loadLibrary disk (Action.settings (.check request) read.1) read.2).toOption.map
        fun library =>
          (library.codes, library.fallbackCatalog?.map fun fallback => fallback.messages.keys)) =
      some (["en".toList, "de".toList], some ["title".toList]) := by
    decide +kernel
  obtain ⟨read, base, configured, loaded⟩ := loads
  simp only [configured, loaded, Except.toOption, Option.bind_some, Option.map_some,
    Option.some.injEq, Prod.mk.injEq, falls] at made
  obtain ⟨codes, keys⟩ := made
  obtain ⟨own, mem, code⟩ : ∃ own ∈ library.catalogs, own.code = "en".toList :=
    List.mem_map.1 (show "en".toList ∈ library.codes from codes ▸ List.mem_cons_self)
  have has : fallback.messages.contains "title".toList = true :=
    Messages.mem_keys_iff.1 (keys ▸ List.mem_cons_self)
  exact ⟨library, fallback, own, ⟨read, base, configured, loaded⟩, falls, mem, codes, code, keys,
    renders own mem english _ asked' rfl (congrArg some code.symm) has [] rfl⟩

end Command
end LocaleText
