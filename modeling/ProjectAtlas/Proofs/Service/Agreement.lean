import ProjectAtlas.Proofs.Command.Reporting
import ProjectAtlas.Proofs.Command.Words
import ProjectAtlas.Proofs.Index.Search
import ProjectAtlas.Proofs.Indexer.Magnitude
import ProjectAtlas.Proofs.Json.Sendable
import ProjectAtlas.Proofs.Service.Timeline

/-!
The command line and the service list the same. What a command prints about a project, a service that
has scanned the project answers, entity by entity; it leaves out some fields of content files, of plugins
and of their modules. A second parameter narrows a search to what the index lists for it.

Every query and every category can be put to the service. The command line takes a word with a hyphen in
front for a switch, unless it stands behind a divider or an equals sign, and it takes no divider for a
value.
-/

namespace ProjectAtlas

namespace Index

/-- What is listed of the index can be sent, as far as files do not see to it: values of entries have few
digits, and no text has half of a surrogate pair. -/
structure IsSendable (ix : Index) : Prop where
  values : ∀ d ∈ ix.declarations none, ∀ e ∈ d.values, e.value.any Text.isTooLong = false
  declarations : ∀ d ∈ ix.declarations none, d.toJson.holdsLoneHalf = false
  assets : ∀ a ∈ ix.assets none, a.toJson.holdsLoneHalf = false
  plugins : ∀ p ∈ ix.plugins none, p.toJson.holdsLoneHalf = false

instance (ix : Index) : Decidable ix.IsSendable :=
  decidable_of_iff
    ((∀ d ∈ ix.declarations none, ∀ e ∈ d.values, e.value.any Text.isTooLong = false) ∧
      (∀ d ∈ ix.declarations none, d.toJson.holdsLoneHalf = false) ∧
      (∀ a ∈ ix.assets none, a.toJson.holdsLoneHalf = false) ∧
      ∀ p ∈ ix.plugins none, p.toJson.holdsLoneHalf = false)
    ⟨fun ⟨values, declarations, assets, plugins⟩ => ⟨values, declarations, assets, plugins⟩,
      fun h => ⟨h.values, h.declarations, h.assets, h.plugins⟩⟩

variable {ix : Index}

/-- The listed entities that are in two other lists as well. -/
def inBoth {α : Type} [DecidableEq α] (listing first second : List α) : List α :=
  listing.filter fun a => a ∈ first ∧ a ∈ second

theorem inBoth_filter {α : Type} [DecidableEq α] (listing : List α) (p q : α → Bool) :
    inBoth listing (listing.filter p) (listing.filter q) = (listing.filter p).filter q := by
  rw [List.filter_filter]
  refine List.filter_congr fun a ha => ?_
  simp [ha, Bool.and_comm]

/-- The plugins of a category, where an empty one counts as none. -/
def pluginsIn (ix : Index) (category : String) : List Plugin :=
  if category = "" then ix.plugins none else ix.pluginsByCategory category

theorem mem_plugins_of_pluginsIn {category : String} {p : Plugin} (hp : p ∈ ix.pluginsIn category) :
    p ∈ ix.plugins none := by
  unfold pluginsIn at hp
  split at hp
  · exact hp
  · exact (List.mem_filter.mp hp).1

end Index

namespace Command

/-- The words ask for a task, for the project at a root. -/
def Asks (v : Volume) (root : Path) (task : Task) (words : List String) : Prop :=
  ∃ i, Invocation.ofWords words = .ok i ∧ i.task = task ∧ i.StartsAt v root

/-- The words have a document printed, and nothing goes wrong. -/
def HavePrinted (v : Volume) (words : List String) (document : Json) : Prop :=
  ∃ o, run v words = .ok o ∧ o.code = 0 ∧ o.Prints document

variable {v : Volume} {root : Path} {ix : Index} {words : List String}

/-- What a task finds in the index is printed, if it can be written. -/
theorem Asks.print {task : Task} (h : Asks v root task words)
    (hScan : (scan v {} root).outcome = .ok ix) (hCheck : task ≠ .validate)
    (hServe : task.verb ≠ .serve) {document : Json} (hDocument : task.document ix = .ok document)
    (hWritable : document.holdsTooLong = false) : HavePrinted v words document := by
  obtain ⟨i, hWords, rfl, hStart⟩ := h
  obtain ⟨o, hPrint, hCode, hPrints⟩ :=
    print_of_writable hWritable (written i.verbose (scan v {} root).journal) 0
  refine ⟨o, ?_, hCode, hPrints⟩
  simp only [run, hWords]
  rw [run_of_scan hCheck hStart, runScan_of_document hScan hServe hDocument, hPrint]

/-- Words that are read as a task ask for it, for the project that is worked in. -/
theorem asks_of_ofWords {task : Task} {verbose : Bool}
    (hWords : Invocation.ofWords words = .ok ⟨task, some ".", verbose⟩)
    (hStart : v.startFrom (Path.ofString ".") = .ok root) : Asks v root task words :=
  ⟨_, hWords, rfl, ".", rfl, hStart⟩

/-- The document of a search among one kind of entities. -/
def labelled (kind : SearchKind) (found : Json) : Json :=
  .obj [(kind.label, found)]

end Command

namespace Service

open Command (Asks HavePrinted SearchKind Task labelled run)

/-- A question with parameters. -/
def get (path : String) (parameters : List (String × String)) : Request :=
  { method := "GET", path, parameters }

/-- The service answers with a document, whatever the files are now, and stays as it is. -/
def Serves (s : Service) (r : Request) (document : Json) : Prop :=
  ∀ files, s.respond files r = (s, .document 200 document)

/-- What is served of a plugin has its fields as they are printed, and its modules with theirs. -/
structure ShowsPlugin (printed served : Json) : Prop where
  fields : ∃ fields, served = .obj fields ∧ fields.map (·.1) = pluginFields ++ ["modules"]
  values : ∀ key ∈ pluginFields, served.field? key = printed.field? key
  modules : ∃ whole part, printed.field? "modules" = some (.arr whole) ∧
    served.field? "modules" = some (.arr part) ∧
    List.Forall₂ (Json.Shows moduleFields) whole part

/-- Entities are listed alike: each command line that asks for them prints them, and the service answers a
question with them. `shows` tells how an entity as it is served compares with the same as it is printed. -/
structure ListedAlike {α : Type} (v : Volume) (root : Path) (s : Service) (entities : List α)
    (task : Task) (wrap : Json → Json) (printedAs : α → Json) (r : Request) (servedAs : α → Json)
    (shows : Json → Json → Prop) : Prop where
  printed : ∀ words, Asks v root task words → HavePrinted v words (wrap (Json.list printedAs entities))
  served : Serves s r (Json.list servedAs entities)
  shown : ∀ a ∈ entities, shows (printedAs a) (servedAs a)

/-- Content files and modules are served with their fields as they are printed. -/
theorem shows_assetJson (a : Asset) : Json.Shows assetFields a.toJson (assetJson a) :=
  Json.shows_only rfl

theorem shows_moduleJson (m : ModuleRef) : Json.Shows moduleFields m.toJson (moduleJson m) :=
  Json.shows_only rfl

theorem forall₂_shows_modules (ms : List ModuleRef) :
    List.Forall₂ (Json.Shows moduleFields) (ms.map ModuleRef.toJson) (ms.map moduleJson) := by
  induction ms with
  | nil => exact .nil
  | cons m ms ih => exact .cons (shows_moduleJson m) ih

theorem showsPlugin_pluginJson (p : Plugin) : ShowsPlugin p.toJson (pluginJson p) where
  fields := ⟨_, rfl, rfl⟩
  values := by
    intro key hKey
    have hNot : "modules" ∉ pluginFields := by decide
    have hOther : (key == "modules") = false := by
      rw [beq_eq_false_iff_ne]
      exact fun hSame => hNot (hSame ▸ hKey)
    calc
      (pluginJson p).field? key = ((p.toJson.only pluginFields).field? key).or
          ([("modules", Json.list moduleJson p.modules)].lookup key) := List.lookup_append
      _ = (p.toJson.only pluginFields).field? key := by
        rw [List.lookup_cons, hOther, List.lookup_nil, Option.or_none]
      _ = p.toJson.field? key := Json.field?_only hKey _
  modules := ⟨_, _, rfl, rfl, forall₂_shows_modules p.modules⟩

/-- What is served of a plugin can be sent if all that is printed of it can. -/
theorem isPlain_pluginJson {p : Plugin} (h : p.toJson.isPlain = true) : (pluginJson p).isPlain = true := by
  have hModules : (Json.list ModuleRef.toJson p.modules).isPlain = true :=
    Json.isPlain_of_field? "modules" h rfl
  rw [Json.isPlain_list, List.all_eq_true] at hModules
  have hParts : (Json.list moduleJson p.modules).isPlain = true := by
    rw [Json.isPlain_list, List.all_eq_true]
    exact fun m hm => Json.isPlain_only (hModules m hm)
  have hRest : (p.toJson.only pluginFields).isPlain = true := Json.isPlain_only h
  have hName : Text.hasLoneHalf "modules" = false := by decide
  rw [Plugin.toJson, Json.only, Json.isPlain_obj] at hRest
  show (Json.obj (_ ++ [("modules", Json.list moduleJson p.modules)])).isPlain = true
  rw [Json.isPlain_obj, List.all_append, hRest]
  simp [hName, hParts]

section Scan

variable {v : Volume} {root : Path} {ix : Index} {s : Service}

/-- Everything that is listed can be sent. -/
theorem isPlain_of_scan (hSizes : v.HasWritableSizes) (hScan : (scan v {} root).outcome = .ok ix)
    (h : ix.IsSendable) :
    (∀ d ∈ ix.declarations none, d.toJson.isPlain = true) ∧
      (∀ a ∈ ix.assets none, a.toJson.isPlain = true) ∧
      ∀ p ∈ ix.plugins none, p.toJson.isPlain = true := by
  obtain ⟨hLines, hAssets⟩ := writableNumbers_of_scan hSizes rfl hScan
  refine ⟨fun d hd => ?_, fun a ha => ?_, fun p hp => ?_⟩
  · have hShort : d.toJson.holdsTooLong = false := by
      rw [Bool.eq_false_iff, Ne, Declaration.holdsTooLong_toJson]
      rintro (hLong | ⟨e, he, n, hn, hLong⟩)
      · exact absurd hLong (by simp [hLines d hd])
      · have hValue := h.values d hd e he
        simp [hn, hLong] at hValue
    simp [Json.isPlain_eq, hShort, h.declarations d hd]
  · simp [Json.isPlain_eq, hAssets a ha, h.assets a ha]
  · simp [Json.isPlain_eq, h.plugins p hp]

/-- A question is answered with the entities that are found, if each of them can be sent. -/
theorem serves_found (hIndex : s.index = .ok ix) (route : Route) {path : String}
    {parameters : List (String × String)} (hRoute : Route.ofPath? path = some route)
    (hQuestion : route ≠ .scan ∧ route ≠ .health) {α : Type} {servedAs : α → Json} {found : List α}
    (hAnswer : answerFrom ix (get path parameters) route = .send 200 (Json.list servedAs found))
    (hPlain : ∀ a ∈ found, (servedAs a).isPlain = true) :
    Serves s (get path parameters) (Json.list servedAs found) := by
  have hSent : (Json.list servedAs found).isPlain = true := by
    rwa [Json.isPlain_list, List.all_eq_true]
  intro files
  refine Prod.ext (respond_get s files path parameters) ?_
  calc
    (s.respond files (get path parameters)).2 = s.answer (get path parameters) route :=
      respond_get_of_route s files parameters hRoute hQuestion.1
    _ = .send 200 (Json.list servedAs found) := (answer_of_index hIndex _ hQuestion.2).trans hAnswer
    _ = .document 200 (Json.list servedAs found) := by rw [Answer.send, if_pos hSent]

/-- Entities are listed alike if they are what a task and a question find, and can be written and sent. -/
theorem listedAlike_of_found (hScan : (scan v {} root).outcome = .ok ix) (hIndex : s.index = .ok ix)
    {α : Type} {entities : List α} {task : Task} {wrap : Json → Json} {printedAs servedAs : α → Json}
    {shows : Json → Json → Prop} (route : Route) {path : String}
    {parameters : List (String × String)} (hTask : task ≠ .validate ∧ task.verb ≠ .serve)
    (hDocument : task.document ix = .ok (wrap (Json.list printedAs entities)))
    (hWrap : ∀ found, (wrap found).holdsTooLong = found.holdsTooLong)
    (hRoute : Route.ofPath? path = some route) (hQuestion : route ≠ .scan ∧ route ≠ .health)
    (hAnswer : answerFrom ix (get path parameters) route = .send 200 (Json.list servedAs entities))
    (hPrinted : ∀ a ∈ entities, (printedAs a).isPlain = true)
    (hServed : ∀ a ∈ entities, (servedAs a).isPlain = true)
    (hShown : ∀ a, shows (printedAs a) (servedAs a)) :
    ListedAlike v root s entities task wrap printedAs (get path parameters) servedAs shows where
  printed words hAsks := by
    have hWritable : (wrap (Json.list printedAs entities)).holdsTooLong = false := by
      rw [hWrap]
      refine Json.holdsTooLong_of_isPlain ?_
      rwa [Json.isPlain_list, List.all_eq_true]
    exact hAsks.print hScan hTask.1 hTask.2 hDocument hWritable
  served := serves_found hIndex route hRoute hQuestion hAnswer hServed
  shown a _ := hShown a

/-- A service has the index of the scan that it was asked for. -/
theorem index_of_scan (s : Service) {r : Request} (hRoute : Route.ofPath? r.path = some .scan)
    (hMethod : r.method = "POST") {path : String} (hPath : scanPath r.body = .ok path)
    (hStart : v.startFrom (Path.ofString path) = .ok root)
    (hScan : (scan v {} root).outcome = .ok ix) : (s.respond v r).1.index = .ok ix := by
  simp [Service.respond, hRoute, hMethod, Route.method, Service.begin, hPath, Indexer.atPath, hStart,
    Except.map, Except.toOption, Service.start, Service.finish, Indexer.scan, hScan, Service.index,
    Indexer.ask]

end Scan

section Parameters

variable (ix : Index) (query : String)

/-- The value of a parameter as it is taken: an empty one counts as none. -/
def taken (value : String) : Option String :=
  (some value).filter (· != "")

theorem taken_of_ne {value : String} (h : value ≠ "") : taken value = some value := by
  simp [taken, h]

/-- What the service finds for a query is what a search finds, for an empty query too. -/
theorem declarationsFor_taken :
    declarationsFor ix (taken query) none = ix.searchDeclarations query := by
  by_cases hEmpty : query = ""
  · subst hEmpty
    exact ix.searchDeclarations_empty.symm
  · rw [taken_of_ne hEmpty]
    rfl

theorem assetsFor_taken : assetsFor ix (taken query) none = ix.searchAssets query := by
  by_cases hEmpty : query = ""
  · subst hEmpty
    exact ix.searchAssets_empty.symm
  · rw [taken_of_ne hEmpty]
    rfl

/-- What is left by a kind is what the search and the listing of that kind have in common. -/
theorem declarationsFor_kind {kind : String} (hKind : kind ≠ "") :
    declarationsFor ix (taken query) (taken kind) =
      Index.inBoth (ix.declarations none) (ix.searchDeclarations query)
        (ix.declarations (some kind)) := by
  calc
    declarationsFor ix (taken query) (taken kind) =
        (declarationsFor ix (taken query) none).filter fun d => d.kind.marker == Text.upper kind := by
      rw [taken_of_ne hKind]
      rfl
    _ = _ := by
      rw [declarationsFor_taken]
      exact (Index.inBoth_filter _ _ _).symm

theorem assetsFor_type {type : String} (hType : type ≠ "") :
    assetsFor ix (taken query) (taken type) =
      Index.inBoth (ix.assets none) (ix.searchAssets query) (ix.assets (some type)) := by
  calc
    assetsFor ix (taken query) (taken type) =
        (assetsFor ix (taken query) none).filter fun a => Text.lower a.type == Text.lower type := by
      rw [taken_of_ne hType]
      rfl
    _ = _ := by
      rw [assetsFor_taken]
      exact (Index.inBoth_filter _ _ _).symm

/-- A category is taken alike by the command line and by the service. -/
theorem pluginsFor_taken (category : String) :
    pluginsFor ix (taken category) = ix.pluginsIn category := by
  by_cases hEmpty : category = ""
  · subst hEmpty
    rfl
  · rw [taken_of_ne hEmpty, Index.pluginsIn, if_neg hEmpty]
    rfl

end Parameters

/-- A project that was scanned by a service is listed alike by the command line and by the service: the
declarations and the content files that a query finds, and the plugins of a category, each with the same
values in all fields that are served. The empty query finds everything, and so does the empty category. With
a kind or a type beside the query, the service answers what the search and the listing of that kind or type
have in common. Any query can be asked for in a command line, and any category but the divider; a word that
starts with no hyphen can be given as it is. -/
theorem listings_agree {v : Volume} {root : Path} {ix : Index} {s : Service}
    (hSizes : v.HasWritableSizes) (hScan : (scan v {} root).outcome = .ok ix)
    (hIndex : s.index = .ok ix) (hSendable : ix.IsSendable) :
    (∀ query,
      ListedAlike v root s (ix.searchDeclarations query) (.search query (some .declarations))
          (labelled .declarations) Declaration.toJson (get "/declarations" [("query", query)])
          Declaration.toJson Eq ∧
        ListedAlike v root s (ix.searchAssets query) (.search query (some .assets))
          (labelled .assets) Asset.toJson (get "/assets" [("query", query)]) assetJson
          (Json.Shows assetFields)) ∧
    (∀ category,
      ListedAlike v root s (ix.pluginsIn category) (.plugins (some category) false) id Plugin.toJson
        (get "/plugins" [("category", category)]) pluginJson ShowsPlugin) ∧
    (∀ query kind, kind ≠ "" →
      Serves s (get "/declarations" [("query", query), ("kind", kind)])
        (Json.list Declaration.toJson
          (Index.inBoth (ix.declarations none) (ix.searchDeclarations query)
            (ix.declarations (some kind))))) ∧
    (∀ query type, type ≠ "" →
      Serves s (get "/assets" [("query", query), ("type", type)])
        (Json.list assetJson
          (Index.inBoth (ix.assets none) (ix.searchAssets query) (ix.assets (some type))))) ∧
    (v.startFrom (Path.ofString ".") = .ok root →
      (∀ query kind,
        Asks v root (.search query (some kind)) ["search", "--kind", kind.label, "--", query]) ∧
      (∀ query kind, query.toList.head? ≠ some '-' →
        Asks v root (.search query (some kind)) ["search", query, "--kind", kind.label]) ∧
      (∀ category, category ≠ "--" →
        Asks v root (.plugins (some category) false) ["plugins", "--category=" ++ category]) ∧
      ∀ category, category.toList.head? ≠ some '-' →
        Asks v root (.plugins (some category) false) ["plugins", "--category", category]) := by
  obtain ⟨hDeclarations, hAssets, hPlugins⟩ := isPlain_of_scan hSizes hScan hSendable
  have hServedAssets : ∀ a ∈ ix.assets none, (assetJson a).isPlain = true :=
    fun a ha => Json.isPlain_only (hAssets a ha)
  refine ⟨fun query => ⟨?_, ?_⟩, fun category => ?_, fun query kind hKind => ?_,
    fun query type hType => ?_, fun hStart => ⟨?_, ?_, ?_, ?_⟩⟩
  · have hListed : ∀ d ∈ ix.searchDeclarations query, d.toJson.isPlain = true :=
      fun d hd => hDeclarations d (List.mem_filter.mp hd).1
    refine listedAlike_of_found hScan hIndex .declarations (by simp [Task.verb]) rfl (by simp [labelled])
      rfl (by simp) ?_ hListed hListed fun _ => rfl
    rw [← declarationsFor_taken]
    rfl
  · have hListed : ∀ a ∈ ix.searchAssets query, a ∈ ix.assets none :=
      fun a ha => (List.mem_filter.mp ha).1
    refine listedAlike_of_found hScan hIndex .assets (by simp [Task.verb]) rfl (by simp [labelled])
      rfl (by simp) ?_ (fun a ha => hAssets a (hListed a ha))
      (fun a ha => hServedAssets a (hListed a ha)) shows_assetJson
    rw [← assetsFor_taken]
    rfl
  · have hListed : ∀ p ∈ ix.pluginsIn category, p.toJson.isPlain = true :=
      fun p hp => hPlugins p (Index.mem_plugins_of_pluginsIn hp)
    refine listedAlike_of_found hScan hIndex .plugins (by simp [Task.verb]) ?_ (fun _ => rfl) rfl
      (by simp) ?_ hListed (fun p hp => isPlain_pluginJson (hListed p hp)) showsPlugin_pluginJson
    · rw [← pluginsFor_taken]
      rfl
    · rw [← pluginsFor_taken]
      rfl
  · refine serves_found hIndex .declarations rfl (by simp) ?_ fun d hd =>
      hDeclarations d (List.mem_filter.mp hd).1
    rw [← declarationsFor_kind ix query hKind]
    rfl
  · refine serves_found hIndex .assets rfl (by simp) ?_ fun a ha =>
      hServedAssets a (List.mem_filter.mp ha).1
    rw [← assetsFor_type ix query hType]
    rfl
  · exact fun query kind => Command.asks_of_ofWords (Command.ofWords_search_divided kind query) hStart
  · exact fun query kind hPlain =>
      Command.asks_of_ofWords (Command.ofWords_search_plain kind hPlain) hStart
  · exact fun category hOther => Command.asks_of_ofWords (Command.ofWords_plugins_joined hOther) hStart
  · exact fun category hPlain => Command.asks_of_ofWords (Command.ofWords_plugins_apart hPlain) hStart

/-- A project with a class, a content file, and a plugin for tools. It is worked in. -/
def toolProject : Volume where
  root := .dir
    [("P", .dir
      [("P.uproject", textFile "\x7b\"Modules\": [\x7b\"Name\": \"P\"\x7d]\x7d"),
        ("Source", .dir [("P", .dir [("A.h", textFile "UCLASS()\nclass AHero")] false)] false),
        ("Content", .dir [("Hero.uasset", textFile "abc")] false),
        ("Plugins", .dir
          [("X", .dir [("X.uplugin", textFile "\x7b\"Category\": \"Tools\"\x7d")] false)]
          false)] false)] false
  workingDirectory := ["P"]

/-- The service after a scan of that project. -/
def toolService : Service :=
  (({} : Service).respond toolProject
    { method := "POST", path := "/scan", body := some (.obj [("path", .str "/P")]) }).1

theorem startFrom_toolProject :
    toolProject.startFrom (Path.ofString ".") = .ok ⟨.root, ["P"]⟩ ∧
      toolProject.startFrom (Path.ofString "/P") = .ok ⟨.root, ["P"]⟩ := by
  decide +kernel

/-- The names of all that is listed of the project, which can be sent. -/
theorem scan_toolProject :
    ∃ ix, (scan toolProject {} ⟨.root, ["P"]⟩).outcome = .ok ix ∧ toolService.index = .ok ix ∧
      ix.IsSendable ∧ (ix.searchDeclarations "HERO").map (·.name) = ["AHero"] ∧
      (ix.searchAssets "HERO").map (·.name) = ["Hero"] ∧
      (ix.pluginsIn "tools").map (·.name) = ["X"] ∧ (ix.plugins none).map (·.name) = ["X"] ∧
      ix.searchDeclarations "-x" = [] ∧ ix.pluginsIn "--" = [] := by
  have hAll : (scan toolProject {} ⟨.root, ["P"]⟩).outcome.toOption.map (fun ix =>
      decide (ix.IsSendable ∧ (ix.searchDeclarations "HERO").map (·.name) = ["AHero"] ∧
        (ix.searchAssets "HERO").map (·.name) = ["Hero"] ∧
        (ix.pluginsIn "tools").map (·.name) = ["X"] ∧ (ix.plugins none).map (·.name) = ["X"] ∧
        ix.searchDeclarations "-x" = [] ∧ ix.pluginsIn "--" = [])) = some true := by
    decide +kernel
  cases hScan : (scan toolProject {} ⟨.root, ["P"]⟩).outcome with
  | error fault =>
      rw [hScan] at hAll
      cases hAll
  | ok ix =>
      rw [hScan] at hAll
      have hIndex : toolService.index = .ok ix :=
        index_of_scan {} rfl rfl rfl startFrom_toolProject.2 hScan
      exact ⟨ix, rfl, hIndex, of_decide_eq_true (Option.some.inj hAll)⟩

/-- The statement on listings, for names and a category of that project in another case. -/
theorem listings_agree_toolProject :
    ∃ ix, (scan toolProject {} ⟨.root, ["P"]⟩).outcome = .ok ix ∧ toolService.index = .ok ix ∧
      ((ix.searchDeclarations "HERO").map (·.name) = ["AHero"] ∧
        HavePrinted toolProject ["search", "HERO", "--kind", "declarations"]
          (labelled .declarations (Json.list Declaration.toJson (ix.searchDeclarations "HERO"))) ∧
        Serves toolService (get "/declarations" [("query", "HERO")])
          (Json.list Declaration.toJson (ix.searchDeclarations "HERO"))) ∧
      ((ix.searchAssets "HERO").map (·.name) = ["Hero"] ∧
        HavePrinted toolProject ["search", "HERO", "--kind", "assets"]
          (labelled .assets (Json.list Asset.toJson (ix.searchAssets "HERO"))) ∧
        Serves toolService (get "/assets" [("query", "HERO")])
          (Json.list assetJson (ix.searchAssets "HERO"))) ∧
      ((ix.pluginsIn "tools").map (·.name) = ["X"] ∧
        HavePrinted toolProject ["plugins", "--category=" ++ "tools"]
          (Json.list Plugin.toJson (ix.pluginsIn "tools")) ∧
        Serves toolService (get "/plugins" [("category", "tools")])
          (Json.list pluginJson (ix.pluginsIn "tools"))) := by
  obtain ⟨ix, hScan, hIndex, hSendable, hDeclarations, hAssets, hPlugins, -⟩ := scan_toolProject
  have hSizes : toolProject.HasWritableSizes :=
    Volume.hasWritableSizes_of_byteCount (by decide +kernel)
  obtain ⟨hSearch, hCategory, -, -, hWords⟩ := listings_agree hSizes hScan hIndex hSendable
  obtain ⟨-, hPlain, hJoined, -⟩ := hWords startFrom_toolProject.1
  have hQuery : "HERO".toList.head? ≠ some '-' := by decide +kernel
  obtain ⟨hClass, hFile⟩ := hSearch "HERO"
  refine ⟨ix, hScan, hIndex, ⟨hDeclarations, ?_, hClass.served⟩, ⟨hAssets, ?_, hFile.served⟩,
    hPlugins, ?_, (hCategory "tools").served⟩
  · exact hClass.printed _ (hPlain "HERO" .declarations hQuery)
  · exact hFile.printed _ (hPlain "HERO" .assets hQuery)
  · exact (hCategory "tools").printed _ (hJoined "tools" (by decide))

/-- A query with a hyphen in front is refused by the command line, and the service finds nothing for it. A
divider as category is refused by the command line as a word of its own; behind an equals sign it counts as
none, and all plugins are printed, but the service finds none of that category. -/
theorem listings_differ_by_hyphens :
    ∃ ix, (scan toolProject {} ⟨.root, ["P"]⟩).outcome = .ok ix ∧ toolService.index = .ok ix ∧
      ix.IsSendable ∧
      ((run toolProject ["search", "-x", "--kind", "declarations"]).toOption.map fun o =>
          (o.code, o.output)) = some (2, "") ∧
        Serves toolService (get "/declarations" [("query", "-x")]) (.arr []) ∧
      ((run toolProject ["plugins", "--category", "--"]).toOption.map fun o =>
          (o.code, o.output)) = some (2, "") ∧
        (ix.plugins none).map (·.name) = ["X"] ∧
        HavePrinted toolProject ["plugins", "--category=--"] (Json.list Plugin.toJson (ix.plugins none)) ∧
        Serves toolService (get "/plugins" [("category", "--")]) (.arr []) := by
  obtain ⟨ix, hScan, hIndex, hSendable, -, -, -, hPlugins, hNoClass, hNoPlugin⟩ := scan_toolProject
  have hWords : Command.Invocation.ofWords ["plugins", "--category=--"] =
      .ok ⟨.plugins none false, some ".", false⟩ := by
    decide +kernel
  have hAsks := Command.asks_of_ofWords hWords startFrom_toolProject.1
  refine ⟨ix, hScan, hIndex, hSendable, by decide +kernel, ?_, by decide +kernel, hPlugins, ?_, ?_⟩
  · show Serves toolService _ (Json.list Declaration.toJson [])
    refine serves_found hIndex .declarations rfl (by simp) ?_ (by simp)
    rw [← hNoClass, ← declarationsFor_taken]
    rfl
  · exact hAsks.print hScan (by simp) (by simp [Task.verb]) rfl (by simp)
  · show Serves toolService _ (Json.list pluginJson [])
    refine serves_found hIndex .plugins rfl (by simp) ?_ (by simp)
    rw [← hNoPlugin, ← pluginsFor_taken]
    rfl

end Service

end ProjectAtlas
