import ProjectAtlas.Index.Relations
import ProjectAtlas.Index.Summary
import ProjectAtlas.Json.Basic
import ProjectAtlas.Manifest.Project

/-!
Entities as values of the output format. The fields are written in the order of the entities'
definitions.
-/

namespace ProjectAtlas

open Json

def optText (s : Option String) : Json :=
  opt .str s

def ModuleRef.toJson (m : ModuleRef) : Json :=
  .obj [("name", .str m.name), ("type", .str m.type), ("loading_phase", .str m.loadingPhase),
    ("dependencies", texts m.dependencies), ("path", optText m.path),
    ("declarations", texts m.declarations)]

def PluginRef.toJson (p : PluginRef) : Json :=
  .obj [("name", .str p.name), ("enabled", .bool p.enabled),
    ("marketplace_url", optText p.marketplaceUrl), ("installed", .bool p.installed),
    ("path", optText p.path)]

def BuildConfiguration.toJson (b : BuildConfiguration) : Json :=
  .obj [("name", .str b.name), ("platform", .str b.platform),
    ("configuration", .str b.configuration)]

def Project.toJson (p : Project) : Json :=
  .obj [("root", .str p.root), ("name", .str p.name), ("manifest_path", .str p.manifestPath),
    ("engine_association", .str p.engineAssociation), ("modules", list ModuleRef.toJson p.modules),
    ("plugins", list PluginRef.toJson p.plugins), ("target_platforms", texts p.targetPlatforms),
    ("build_configurations", list BuildConfiguration.toJson p.buildConfigurations),
    ("description", optText p.description), ("category", optText p.category)]

def EnumValue.toJson (v : EnumValue) : Json :=
  .obj [("name", .str v.name), ("value", opt .int v.value)]

def Declaration.toJson (d : Declaration) : Json :=
  .obj [("name", .str d.name), ("kind", .str d.kind.marker), ("parent", optText d.parent),
    ("specifiers", texts d.specifiers), ("file", .str d.file), ("line", nat d.line),
    ("module", optText d.module), ("blueprint_type", .bool d.blueprintType),
    ("blueprintable", .bool d.blueprintable), ("values", list EnumValue.toJson d.values)]

def Parameter.toJson (p : Parameter) : Json :=
  .obj [("name", .str p.name), ("type", .str p.type)]

def Callable.toJson (c : Callable) : Json :=
  .obj [("name", .str c.name), ("owner", .str c.owner), ("return_type", .str c.returnType),
    ("parameters", list Parameter.toJson c.parameters), ("specifiers", texts c.specifiers),
    ("file", .str c.file), ("line", nat c.line), ("module", optText c.module),
    ("blueprint_callable", .bool c.blueprintCallable)]

def Asset.toJson (a : Asset) : Json :=
  .obj [("name", .str a.name), ("path", .str a.path), ("type", .str a.type), ("size", nat a.size),
    ("dependencies", texts a.dependencies), ("referenced_by", texts a.referencedBy)]

def Plugin.toJson (p : Plugin) : Json :=
  .obj [("name", .str p.name), ("path", .str p.path), ("enabled", .bool p.enabled),
    ("installed", .bool p.installed), ("version", optText p.version),
    ("version_name", optText p.versionName), ("friendly_name", optText p.friendlyName),
    ("description", optText p.description), ("category", optText p.category),
    ("created_by", optText p.createdBy), ("created_by_url", optText p.createdByUrl),
    ("docs_url", optText p.docsUrl), ("marketplace_url", optText p.marketplaceUrl),
    ("support_url", optText p.supportUrl), ("engine_version", optText p.engineVersion),
    ("can_contain_content", .bool p.canContainContent), ("is_beta_version", .bool p.isBetaVersion),
    ("is_experimental_version", .bool p.isExperimentalVersion),
    ("modules", list ModuleRef.toJson p.modules)]

def Issue.toJson (i : Issue) : Json :=
  .obj [("kind", .str i.kind.label), ("path", .str i.path), ("detail", .str i.detail)]

def Findings.toJson (f : Findings) : Json :=
  .obj [("declarations", list Declaration.toJson f.declarations),
    ("callables", list Callable.toJson f.callables), ("assets", list Asset.toJson f.assets),
    ("plugins", list Plugin.toJson f.plugins),
    ("module_declarations", .obj (f.moduleDeclarations.map fun m => (m.1, texts m.2))),
    ("issues", list Issue.toJson f.issues)]

def countsToJson (counts : List (String × Nat)) : Json :=
  .obj (counts.map fun c => (c.1, nat c.2))

def Summary.toJson (s : Summary) : Json :=
  .obj [("project_name", .str s.projectName), ("engine_association", .str s.engineAssociation),
    ("platforms", texts s.platforms),
    ("modules", .obj [("total", nat s.modules.length), ("list", texts s.modules)]),
    ("declarations", .obj [("total", nat s.declarations),
      ("by_kind", countsToJson s.declarationsByKind)]),
    ("callables", .obj [("total", nat s.callables),
      ("externally_invokable", nat s.invokableCallables)]),
    ("assets", .obj [("total", nat s.assets), ("by_type", countsToJson s.assetsByType),
      ("total_bytes", nat s.assetBytes)]),
    ("blueprints", .obj [("total", nat s.blueprints)]),
    ("plugins", .obj [("total", nat s.plugins), ("enabled", nat s.enabledPlugins),
      ("categories", countsToJson s.pluginCategories)]),
    ("collisions", countsToJson s.collisions), ("issues", countsToJson s.issues)]

def Usage.toJson (u : Usage) : Json :=
  .obj [("name", .str u.name), ("files", texts u.files)]

def Usage.toJsonWithCount (u : Usage) : Json :=
  .obj [("name", .str u.name), ("files", texts u.files), ("count", nat u.files.length)]

def LayoutReport.toJson (r : LayoutReport) : Json :=
  .obj [("valid", .bool r.valid), ("issues", texts r.issues)]

end ProjectAtlas
