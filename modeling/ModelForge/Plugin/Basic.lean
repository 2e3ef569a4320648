import ModelForge.Model.Basic

/-! What a model that has been loaded offers: it says what it is, reads configurations, and
judges them. -/
namespace ModelForge.Plugin

/-- A schema module that went into a model, without its data. -/
structure ModuleInfo where
  name : String
  version : String
  organization : Option String
deriving DecidableEq, Repr

structure Info where
  name : String
  version : String
  modules : List ModuleInfo
deriving DecidableEq, Repr

/-- What a loaded model says of a configuration it cannot handle. -/
inductive Error where
  | unmarshal (reason : String)
  | marshal (reason : String)
  | invalid (reason : String)
  /-- The configuration was made by another model. -/
  | foreignRoot (model : String)
deriving DecidableEq, Repr

def Error.message : Error → String
  | unmarshal reason => "failed to unmarshal configuration: " ++ reason
  | marshal reason => "failed to marshal configuration: " ++ reason
  | invalid reason => "configuration is invalid: " ++ reason
  | foreignRoot model => "configuration root does not belong to model " ++ model

/-- The configuration of a device. -/
structure Device where
  hostname : String
deriving DecidableEq, Repr

/-- A configuration in memory. It remembers the model whose types it is made of. -/
inductive Root where
  | device (owner : Identity) (device : Device)
  | other
deriving DecidableEq, Repr

/-- A model ready for use. -/
structure Handle where
  info : Info
  unmarshal : ByteArray → Except Error Root
  validate : Root → Except Error Unit

end ModelForge.Plugin
