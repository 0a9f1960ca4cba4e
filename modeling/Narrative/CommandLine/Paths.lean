import Narrative.CommandLine.Basic

/-!
# Paths of a program run

The paths that a program run looks at: those that its arguments name, and then the assets of the
script that is played.
-/

namespace Narrative

/-- The paths that a scene names. -/
def Scene.paths (s : Scene) : List String :=
  [s.background, s.left, s.right, s.audio.path].filter (· ≠ "")

/-- The scenes of an event. -/
def Node.scenes : Node → List Scene
  | .dialogue d => d.lines.map Line.scene
  | .choice c => [c.scene]
  | .malformed _ => []

/-- The paths of all assets of a script. -/
def Script.paths (s : Script) : List String :=
  (s.nodes.flatMap fun e => e.2.scenes.flatMap Scene.paths).eraseDups

namespace CommandLine

/-- The paths that options name, each script under the path that it is loaded from. -/
def Options.paths (o : Options) : List String :=
  o.config.toList ++
    match o.target with
    | none => []
    | some target =>
      target ::
        match repositoryPath? target with
        | some (base, id) => [Repository.scriptPath base id]
        | none => []

/-- The paths that the arguments name. -/
def paths (args : List String) : List String :=
  match Options.read args.tail with
  | .ok o => o.paths
  | .error _ => []

/-- Where the assets of a script are looked for. -/
def assetPaths (config : Config) (script : Script) : List String :=
  script.paths.map (Path.join config.assetRoot)

end CommandLine

end Narrative
