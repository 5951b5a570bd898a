import SourceMacros.Command
import SourceMacros.Proofs.Json.Pretty
import SourceMacros.Proofs.Json.RoundTrip

/-! An expansion is shown as text or as JSON, and both show the same: the JSON is parsed to the object of the
source and of what it expands to, or of why it does not, which are what the text is made of: `expand_modes`. -/

namespace SourceMacros

namespace Request

section Words

variable (r : Request) (words : List String)

theorem commandOf?_json (h : r.asJson = false) :
    r.commandOf? ("--json" :: words) = commandOf? { r with asJson := true } words := by
  have hstep : r.commandOf? ("--json" :: words) = r.addJson.bind fun r => r.commandOf? words := rfl
  rw [hstep]
  simp [addJson, h]

theorem commandOf?_word {word : String} (hguard : word ≠ "--") (hjson : word ≠ "--json")
    (hconfig : word ≠ "--config") : r.commandOf? (word :: words) =
      (match attachedConfig? word with
      | some path => do commandOf? (← r.addConfig path) words
      | none =>
        if asksHelp word then some (.help .expand)
        else if isOption word then none
        else do commandOf? (← r.addSource word) words) :=
  commandOf?.eq_7 r word words (fun _ h _ => hguard h) (fun h _ => hguard h) hguard hjson fun _ _ h _ => hconfig h

theorem attachedConfig?_attached (path : String) : attachedConfig? ("--config=" ++ path) = some path := by
  simp [attachedConfig?]

theorem commandOf?_attached {path : String} (hpath : path ≠ "") (h : r.configPath = none) :
    r.commandOf? (("--config=" ++ path) :: words) = commandOf? { r with configPath := some path } words := by
  -- The word is longer than each of those that mean something by themselves.
  have hne : ∀ word : String, "--config=".length > word.length → "--config=" ++ path ≠ word := by
    rintro word hlength rfl
    rw [String.length_append] at hlength
    omega
  rw [commandOf?_word r words (hne _ (by decide)) (hne _ (by decide)) (hne _ (by decide)), attachedConfig?_attached]
  simp [addConfig, h, hpath]

theorem commandOf?_apart {path : String} (hpath : path ≠ "") (hword : isOption path = false)
    (h : r.configPath = none) : r.commandOf? ("--config" :: path :: words) =
      commandOf? { r with configPath := some path } words := by
  have hstep : r.commandOf? ("--config" :: path :: words) =
      if isOption path then none else (r.addConfig path).bind fun r => r.commandOf? words := rfl
  rw [hstep, if_neg (by simp [hword])]
  simp [addConfig, h, hpath]

theorem commandOf?_guarded (source : String) (h : r.source = none) :
    r.commandOf? ["--", source] = some (.expand source r.asJson r.configPath) := by
  have hstep : r.commandOf? ["--", source] = (r.addSource source).bind command? := rfl
  rw [hstep]
  simp [addSource, h, command?]

theorem isShort_eq_false {word : String} (h : word.toList.head? ≠ some '-') (letter : Char) :
    isShort letter word = false := by
  rw [isShort]
  cases hs : word.toList with
  | nil => rfl
  | cons c s =>
    have hc : '-' ≠ c := by
      rintro rfl
      exact h (by rw [hs]; rfl)
    simp [List.isPrefixOf, hc]

theorem attachedConfig?_eq_none {word : String} (h : word.toList.head? ≠ some '-') :
    attachedConfig? word = none := by
  rw [attachedConfig?, if_neg]
  intro htake
  cases hs : word.toList with
  | nil => simp [hs] at htake
  | cons c s =>
    rw [hs] at htake h
    exact h (congrArg some (List.cons.inj htake).1)

theorem commandOf?_source {source : String} (hsource : source.toList.head? ≠ some '-') (h : r.source = none) :
    r.commandOf? [source] = some (.expand source r.asJson r.configPath) := by
  have hne : ∀ word : String, word.toList.head? = some '-' → source ≠ word := by
    rintro word hword rfl
    exact hsource hword
  have hoption : isOption source = false := by simp [isOption, hsource]
  have hhelp : asksHelp source = false := by
    simp [asksHelp, isShort_eq_false hsource, hne "--help" (by decide)]
  rw [commandOf?_word r [] (hne _ (by decide)) (hne _ (by decide)) (hne _ (by decide)),
    attachedConfig?_eq_none hsource]
  have hend : ∀ r : Request, r.commandOf? [] = r.command? := fun _ => rfl
  simp [hhelp, hoption, addSource, h, hend, command?]

end Words

end Request

section Reports

theorem Diagnostic.small_toJson (d : Diagnostic) : d.toJson.Small := by
  obtain ⟨kind, message, macroName, location⟩ := d
  cases macroName <;> cases location <;>
    simp [toJson, present, Json.Small, Json.MembersSmall, ErrorKind.toJson, Location.small_toJson]

theorem Diagnostic.depth_toJson (d : Diagnostic) : d.toJson.depth ≤ 2 := by
  obtain ⟨kind, message, macroName, location⟩ := d
  cases macroName <;> cases location <;>
    simp [toJson, present, Json.depth, Json.membersDepth, ErrorKind.toJson, Location.toJson]

namespace Report

variable (r : Report)

theorem small_toJson : r.toJson.Small := by
  obtain ⟨source, diagnostic | expanded⟩ := r
  · exact ⟨trivial, diagnostic.small_toJson, trivial⟩
  · exact ⟨trivial, trivial, trivial⟩

theorem depth_toJson : r.toJson.depth ≤ Json.levels := by
  obtain ⟨source, diagnostic | expanded⟩ := r
  · have hdepth := diagnostic.depth_toJson
    simp only [toJson, Json.depth, Json.membersDepth, Json.levels]
    omega
  · simp [toJson, Json.depth, Json.membersDepth, Json.levels]

theorem parse_render : Json.parse (r.render true) = .ok r.toJson :=
  Json.parse_pretty r.small_toJson r.depth_toJson

end Report

end Reports

namespace Command

/-- The words that give the path of a configuration, in one word or two. -/
inductive ConfigWords : Option String → List String → Prop
  | none : ConfigWords none []
  | attached {path : String} (h : path ≠ "") : ConfigWords (some path) ["--config=" ++ path]
  | apart {path : String} (h : path ≠ "") (hword : Request.isOption path = false) :
      ConfigWords (some path) ["--config", path]

/-- The words that give the source. Any source may follow two hyphens, and one that begins with a hyphen has to. -/
inductive SourceWords (source : String) : List String → Prop
  | plain (h : source.toList.head? ≠ some '-') : SourceWords source [source]
  | guarded : SourceWords source ["--", source]

def expandWords (asJson : Bool) (configWords sourceWords : List String) : List String :=
  "expand" :: ((if asJson then ["--json"] else []) ++ (configWords ++ sourceWords))

/-- What is shown of an error in a source that is given on the command line. -/
def diagnostic (error : ExpansionError) : Diagnostic := .ofError error (some place)

/-- What a source that is given on the command line expands to. -/
def expansion (source : String) (config : Config) : Except ExpansionError String :=
  (Registry.standard.expandSource source ⟨config, some place⟩).result

section Words

variable {source : String} {path : Option String} {configWords sourceWords : List String}

theorem commandOf?_sourceWords (h : SourceWords source sourceWords) (r : Request) (hr : r.source = none) :
    r.commandOf? sourceWords = some (.expand source r.asJson r.configPath) := by
  cases h with
  | plain h => exact r.commandOf?_source h hr
  | guarded => exact r.commandOf?_guarded source hr

theorem commandOf?_configWords (h : ConfigWords path configWords) (hsource : SourceWords source sourceWords)
    (r : Request) (hr : r.source = none) (hpath : r.configPath = none) :
    r.commandOf? (configWords ++ sourceWords) = some (.expand source r.asJson path) := by
  cases h with
  | none => rw [List.nil_append, commandOf?_sourceWords hsource r hr, hpath]
  | attached h =>
    rw [List.singleton_append, r.commandOf?_attached _ h hpath]
    exact commandOf?_sourceWords hsource _ hr
  | apart h hword =>
    rw [List.cons_append, List.singleton_append, r.commandOf?_apart _ h hword hpath]
    exact commandOf?_sourceWords hsource _ hr

/-- The words are read as they are meant. -/
theorem ofWords?_expandWords (hconfig : ConfigWords path configWords) (hsource : SourceWords source sourceWords)
    (asJson : Bool) :
    ofWords? (expandWords asJson configWords sourceWords) = some (.expand source asJson path) := by
  have hcommand : ofWords? (expandWords asJson configWords sourceWords) = Request.commandOf? {}
      ((if asJson then ["--json"] else []) ++ (configWords ++ sourceWords)) := rfl
  rw [hcommand]
  cases asJson with
  | false => exact commandOf?_configWords hconfig hsource {} rfl rfl
  | true =>
    rw [if_pos rfl, List.singleton_append, Request.commandOf?_json _ _ rfl]
    exact commandOf?_configWords hconfig hsource _ rfl rfl

end Words

section Replies

variable {source : String} {path contents : Option String}

theorem reply_of_unloaded {error : ConfigError} (h : loaded path contents = .error error) (asJson : Bool) :
    reply (.expand source asJson path) contents = ⟨1, ""⟩ := by
  rw [reply, h]

theorem reply_of_loaded {config : Config} (h : loaded path contents = .ok config) (asJson : Bool) :
    reply (.expand source asJson path) contents = expandReply source asJson config := by
  rw [reply, h]

theorem reply_of_expanded {config : Config} {expanded : String} (h : loaded path contents = .ok config)
    (hexpanded : expansion source config = .ok expanded) (asJson : Bool) :
    reply (.expand source asJson path) contents = ⟨0, (Report.mk source (.ok expanded)).render asJson⟩ := by
  rw [reply_of_loaded h, expandReply, Report.ofSource]
  rw [expansion] at hexpanded
  rw [hexpanded]
  rfl

theorem reply_of_refused {config : Config} {error : ExpansionError} (h : loaded path contents = .ok config)
    (hrefused : expansion source config = .error error) (asJson : Bool) :
    reply (.expand source asJson path) contents =
      ⟨1, (Report.mk source (.error (diagnostic error))).render asJson⟩ := by
  rw [reply_of_loaded h, expandReply, Report.ofSource]
  rw [expansion] at hrefused
  rw [hrefused]
  rfl

/-- How the program ends does not depend on how the expansion is shown. -/
theorem exit_reply (source : String) (path contents : Option String) (asJson : Bool) :
    (reply (.expand source asJson path) contents).exit =
      match loaded path contents with
      | .ok config => if (expansion source config).toBool then 0 else 1
      | .error _ => 1 := by
  cases hload : loaded path contents with
  | error error => rw [reply_of_unloaded hload]
  | ok config =>
    dsimp only
    cases hexpansion : expansion source config with
    | error error =>
      rw [reply_of_refused hload hexpansion]
      rfl
    | ok expanded =>
      rw [reply_of_expanded hload hexpansion]
      rfl

theorem exit_reply_eq_zero (source : String) (path contents : Option String) (asJson : Bool) :
    (reply (.expand source asJson path) contents).exit = 0 ↔ ∃ config expanded,
      loaded path contents = .ok config ∧ expansion source config = .ok expanded := by
  rw [exit_reply]
  cases loaded path contents with
  | error error => simp
  | ok config => cases hexpansion : expansion source config <;> simp [hexpansion, Except.toBool]

theorem run_expandWords {configWords sourceWords : List String} (hconfig : ConfigWords path configWords)
    (hsource : SourceWords source sourceWords) (asJson : Bool) (contents : Option String) :
    run (expandWords asJson configWords sourceWords) contents = reply (.expand source asJson path) contents := by
  rw [run, ofWords?_expandWords hconfig hsource asJson]

theorem render_diagnostic (error : ExpansionError) : (diagnostic error).render =
    "<command line>:1:1: error[" ++ error.kind.name ++ "]: " ++ error.message := by
  have hplace : place.render = "<command line>:1:1" := by decide +kernel
  change place.render ++ ": error[" ++ error.kind.name ++ "]: " ++ error.message = _
  rw [hplace]
  simp [String.append_assoc]

end Replies

/-- Shown either way, an expansion ends alike, with success just where the configuration is loaded and the
source expands. Plain text and JSON hold the same source and the same result or diagnostic. -/
theorem expand_modes {source : String} {path : Option String} {configWords sourceWords : List String}
    (hconfig : ConfigWords path configWords) (hsource : SourceWords source sourceWords)
    (contents : Option String) : ∃ plain json : Reply,
      run (expandWords false configWords sourceWords) contents = plain ∧
      run (expandWords true configWords sourceWords) contents = json ∧ plain.exit = json.exit ∧
      (plain.exit = 0 ↔
        ∃ config expanded, loaded path contents = .ok config ∧ expansion source config = .ok expanded) ∧
      (∀ error, loaded path contents = .error error → plain = ⟨1, ""⟩ ∧ json = ⟨1, ""⟩) ∧
      (∀ config expanded, loaded path contents = .ok config → expansion source config = .ok expanded →
        plain = ⟨0, source ++ "\n=>\n" ++ expanded ++ "\n"⟩ ∧ Json.parse json.output =
          .ok (.object [("source", .string source), ("expanded", .string expanded)])) ∧
      (∀ config error, loaded path contents = .ok config → expansion source config = .error error →
        plain = ⟨1, source ++ "\n" ++ (diagnostic error).render ++ "\n"⟩ ∧ Json.parse json.output =
          .ok (.object [("source", .string source), ("diagnostic", (diagnostic error).toJson)])) ∧
      ∀ error, (diagnostic error).location = some ⟨"<command line>", 1, 1⟩ ∧
        (diagnostic error).render = "<command line>:1:1: error[" ++ error.kind.name ++ "]: " ++ error.message ∧
        (diagnostic error).toJson = .object ([("kind", .string error.kind.name),
          ("message", .string error.message)] ++
          Diagnostic.present "macro_name" (error.macroName?.map .string) ++
          [("location", .object [("file", .string "<command line>"), ("line", .integer 1),
            ("column", .integer 1)])]) := by
  have hrun : ∀ asJson, run (expandWords asJson configWords sourceWords) contents =
      reply (.expand source asJson path) contents := fun asJson =>
    run_expandWords hconfig hsource asJson contents
  refine ⟨_, _, hrun false, hrun true, (exit_reply ..).trans (exit_reply ..).symm, exit_reply_eq_zero ..,
    fun error h => ⟨reply_of_unloaded h false, reply_of_unloaded h true⟩,
    fun config expanded h hexpanded => ⟨?_, ?_⟩, fun config error h hrefused => ⟨?_, ?_⟩,
    fun error => ⟨rfl, render_diagnostic error, rfl⟩⟩
  · rw [reply_of_expanded h hexpanded]
    rfl
  · rw [reply_of_expanded h hexpanded]
    exact Report.parse_render _
  · rw [reply_of_refused h hrefused]
    rfl
  · rw [reply_of_refused h hrefused]
    exact Report.parse_render _

/-- A call that expands, a source that begins with a hyphen and is refused, and a configuration that cannot be
read. -/
theorem expand_modes_samples :
    run ["expand", "#doubleValue(21)"] none = ⟨0, "#doubleValue(21)\n=>\nDouble(21)\n"⟩ ∧
    (run ["expand", "--json", "#doubleValue(21)"] none).exit = 0 ∧
    Json.parse (run ["expand", "--json", "#doubleValue(21)"] none).output =
      .ok (.object [("source", .string "#doubleValue(21)"), ("expanded", .string "Double(21)")]) ∧
    (run ["expand", "--", "-\""] none).exit = 1 ∧
    Json.parse (run ["expand", "--json", "--", "-\""] none).output = .ok (.object [("source", .string "-\""),
      ("diagnostic", (diagnostic (.unreadable (.unreadable (.unexpected 0 "-\"")))).toJson)]) ∧
    run ["expand", "--json", "--config", "c", "--", "-\""] none = ⟨1, ""⟩ := by
  have hcall : SourceWords "#doubleValue(21)" ["#doubleValue(21)"] := .plain (by decide)
  have hhyphen : SourceWords "-\"" ["--", "-\""] := .guarded
  have hexpanded : expansion "#doubleValue(21)" {} = .ok "Double(21)" := by decide +kernel
  have hrefused : expansion "-\"" {} = .error (.unreadable (.unreadable (.unexpected 0 "-\""))) := by
    decide +kernel
  obtain ⟨_, _, rfl, rfl, hexit, -, -, hcalled, -⟩ := expand_modes .none hcall none
  obtain ⟨hplain, hjson⟩ := hcalled {} _ rfl hexpanded
  obtain ⟨_, _, rfl, rfl, -, -, -, -, hfailed, -⟩ := expand_modes .none hhyphen none
  obtain ⟨hplain', hjson'⟩ := hfailed {} _ rfl hrefused
  have hconfig : ConfigWords (some "c") ["--config", "c"] := .apart (by decide) (by decide)
  obtain ⟨_, _, rfl, rfl, -, -, hunloaded, -⟩ := expand_modes hconfig hhyphen none
  exact ⟨hplain, hexit.symm.trans (congrArg Reply.exit hplain), hjson, congrArg Reply.exit hplain', hjson',
    (hunloaded .unreadable rfl).2⟩

end Command

end SourceMacros
