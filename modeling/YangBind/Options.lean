/-! The switches of a compilation. -/

namespace YangBind

/-- How the `config` and `state` containers were folded when the directories were grouped. Mappers
get it with the questions that concern names of directories and packages. -/
inductive CompressBehaviour
  /-- Every schema level has its own directory. -/
  | uncompressed
  /-- The same, without nodes that are not configuration. -/
  | uncompressedExcludeDerivedState
  /-- Folded; the leaves of `config` are primary and those of `state` their shadows. -/
  | preferIntendedConfig
  /-- Folded; the leaves of `state` are primary and those of `config` their shadows. -/
  | preferOperationalState
  /-- Folded, without nodes that are not configuration. -/
  | excludeDerivedState
  deriving DecidableEq, Inhabited

namespace CompressBehaviour

def compressEnabled : CompressBehaviour → Bool
  | .preferIntendedConfig | .preferOperationalState | .excludeDerivedState => true
  | .uncompressed | .uncompressedExcludeDerivedState => false

def stateExcluded : CompressBehaviour → Bool
  | .uncompressedExcludeDerivedState | .excludeDerivedState => true
  | .uncompressed | .preferIntendedConfig | .preferOperationalState => false

end CompressBehaviour

/-- How the schema was transformed before the compilation. -/
structure TransformOptions where
  compressBehaviour : CompressBehaviour := .uncompressed
  skipDeprecated : Bool := false
  skipObsolete : Bool := false
  deriving DecidableEq, Inhabited

/-- Whether paths start at the module boundary or at the directory. -/
inductive PathMode
  | relative | absolute
  deriving DecidableEq, Inhabited

structure IrOptions where
  /-- The origin of every path. When empty, `useModuleNameAsPathOrigin` decides. -/
  pathOriginName : String := ""
  /-- Take the instantiating module of a field as the origin of its paths. -/
  useModuleNameAsPathOrigin : Bool := false
  transformOptions : TransformOptions := {}
  /-- Give list keys that lie in a folded container their alias. -/
  compressPaths : Bool := false
  /-- Report the paths of the shadows too. -/
  shadowSchemaPaths : Bool := false
  absolutePaths : Bool := false
  nestedDirectories : Bool := false
  deriving DecidableEq, Inhabited

namespace IrOptions

def pathMode (o : IrOptions) : PathMode := if o.absolutePaths then .absolute else .relative

end IrOptions

end YangBind
