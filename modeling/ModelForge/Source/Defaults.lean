/-! The definitions that come with the library, one for each kind of generated file. -/
namespace ModelForge.Source.Defaults

/-- The build manifest of a generated library. -/
def manifest : String := String.join [
  "# Generated by config-model \x7b\x7b compiler.crate_version \x7d\x7d. Do not edit.\n",
  "\n",
  "[package]\n",
  "name = \x7b\x7b model.safe_name | quote \x7d\x7d\n",
  "version = \"0.1.0\"\n",
  "edition = \"2021\"\n",
  "rust-version = \x7b\x7b compiler.version | quote \x7d\x7d\n",
  "publish = false\n",
  "\n",
  "[package.metadata.config-model]\n",
  "model = \x7b\x7b model.name | quote \x7d\x7d\n",
  "version = \x7b\x7b model.version | quote \x7d\x7d\n",
  "mode = \x7b\x7b compiler.mode | quote \x7d\x7d\n",
  "\n",
  "[lib]\n",
  "name = \x7b\x7b model.lib_name | quote \x7d\x7d\n",
  "path = \"src/lib.rs\"\n",
  "crate-type = [\"cdylib\", \"rlib\"]\n",
  "\n",
  "[dependencies]\n",
  "config-model-core = \x7b path = \"\x7b\x7b compiler.relative_path \x7d\x7d/config-model-core\" \x7d\n",
  "serde = \x7b version = \"1\", features = [\"derive\"] \x7d\n",
  "serde_json = \"1\"\n",
  "\n",
  "# Keeps the generated crate out of any enclosing workspace.\n",
  "[workspace]\n"]

/-- The root of a generated library, with the loader symbol in one of the two modes. -/
def entryPoint : String := String.join [
  "//! Config model plugin for \x7b\x7b model.name \x7d\x7d \x7b\x7b model.version \x7d\x7d.\n",
  "//!\n",
  "//! Generated by config-model \x7b\x7b compiler.crate_version \x7d\x7d. Do not edit.\n",
  "\n",
  "pub mod \x7b\x7b compiler.package \x7d\x7d \x7b\n",
  "    pub mod generated;\n",
  "    pub mod model;\n",
  "    pub mod plugin;\n",
  "    pub mod unmarshaller;\n",
  "    pub mod validator;\n",
  "\x7d\n",
  "\x7b% if compiler.mode == \"module\" %\x7d\n",
  "use config_model_core::ModelPlugin;\n",
  "\n",
  "/// Loader entry point.\n",
  "#[no_mangle]\n",
  "pub static \x7b\x7b compiler.symbol \x7d\x7d: ModelPlugin = ModelPlugin::new(\x7b\x7b compiler.package \x7d\x7d::plugin::model);\n",
  "\x7b%- else %\x7d\n",
  "/// Standalone build: link this crate into a host program and call `model()`.\n",
  "pub use \x7b\x7b compiler.package \x7d\x7d::plugin::model;\n",
  "\x7b%- endif %\x7d\n"]

/-- What a generated library says about its model and the modules in it. -/
def model : String := String.join [
  "//! \x7b\x7b model.name | quote \x7d\x7d model. Generated, do not edit.\n",
  "\n",
  "use config_model_core::\x7bConfigModel, ModelInfo, ModuleInfo, Name, Unmarshaller, Validator, Version\x7d;\n",
  "\n",
  "use super::unmarshaller::DeviceUnmarshaller;\n",
  "use super::validator::DeviceValidator;\n",
  "\n",
  "pub const MODEL_NAME: &str = \x7b\x7b model.name | quote \x7d\x7d;\n",
  "pub const MODEL_VERSION: &str = \x7b\x7b model.version | quote \x7d\x7d;\n",
  "\n",
  "/// Schema modules compiled into this model.\n",
  "pub fn modules() -> Vec<ModuleInfo> \x7b\n",
  "    vec![\n",
  "\x7b%- for module in model.modules %\x7d\n",
  "        ModuleInfo \x7b\n",
  "            name: Name::from(\x7b\x7b module.name | quote \x7d\x7d),\n",
  "            organization: \x7b% if module.organization %\x7dSome(\x7b\x7b module.organization | quote \x7d\x7d.to_string())\x7b% else %\x7dNone\x7b% endif %\x7d,\n",
  "            version: Version::from(\x7b\x7b module.version | quote \x7d\x7d),\n",
  "        \x7d,\n",
  "\x7b%- endfor %\x7d\n",
  "    ]\n",
  "\x7d\n",
  "\n",
  "#[derive(Debug, Default)]\n",
  "pub struct DeviceModel \x7b\n",
  "    unmarshaller: DeviceUnmarshaller,\n",
  "    validator: DeviceValidator,\n",
  "\x7d\n",
  "\n",
  "impl DeviceModel \x7b\n",
  "    pub fn new() -> Self \x7b\n",
  "        Self::default()\n",
  "    \x7d\n",
  "\x7d\n",
  "\n",
  "impl ConfigModel for DeviceModel \x7b\n",
  "    fn info(&self) -> ModelInfo \x7b\n",
  "        ModelInfo \x7b\n",
  "            name: Name::from(MODEL_NAME),\n",
  "            version: Version::from(MODEL_VERSION),\n",
  "            modules: modules(),\n",
  "        \x7d\n",
  "    \x7d\n",
  "\n",
  "    fn unmarshaller(&self) -> &dyn Unmarshaller \x7b\n",
  "        &self.unmarshaller\n",
  "    \x7d\n",
  "\n",
  "    fn validator(&self) -> &dyn Validator \x7b\n",
  "        &self.validator\n",
  "    \x7d\n",
  "\x7d\n"]

/-- How a generated library reads and writes configurations. -/
def unmarshaller : String := String.join [
  "//! JSON unmarshalling for \x7b\x7b model.name | quote \x7d\x7d. Generated, do not edit.\n",
  "\n",
  "use std::any::Any;\n",
  "\n",
  "use config_model_core::\x7bConfigRoot, ModelError, Unmarshaller\x7d;\n",
  "\n",
  "use super::generated::Device;\n",
  "\n",
  "/// Configuration tree rooted at the generated `Device` type.\n",
  "pub struct DeviceRoot(pub Device);\n",
  "\n",
  "impl ConfigRoot for DeviceRoot \x7b\n",
  "    fn marshal(&self) -> Result<Vec<u8>, ModelError> \x7b\n",
  "        serde_json::to_vec(&self.0).map_err(|e| ModelError::Marshal(e.to_string()))\n",
  "    \x7d\n",
  "\n",
  "    fn as_any(&self) -> &dyn Any \x7b\n",
  "        self\n",
  "    \x7d\n",
  "\x7d\n",
  "\n",
  "#[derive(Debug, Default)]\n",
  "pub struct DeviceUnmarshaller;\n",
  "\n",
  "impl Unmarshaller for DeviceUnmarshaller \x7b\n",
  "    fn unmarshal(&self, data: &[u8]) -> Result<Box<dyn ConfigRoot>, ModelError> \x7b\n",
  "        let device: Device =\n",
  "            serde_json::from_slice(data).map_err(|e| ModelError::Unmarshal(e.to_string()))?;\n",
  "        Ok(Box::new(DeviceRoot(device)))\n",
  "    \x7d\n",
  "\x7d\n"]

/-- How a generated library judges configurations. -/
def validator : String := String.join [
  "//! Validation for \x7b\x7b model.name | quote \x7d\x7d. Generated, do not edit.\n",
  "\n",
  "use config_model_core::\x7bConfigRoot, ModelError, Validate, Validator\x7d;\n",
  "\n",
  "use super::model::MODEL_NAME;\n",
  "use super::unmarshaller::DeviceRoot;\n",
  "\n",
  "#[derive(Debug, Default)]\n",
  "pub struct DeviceValidator;\n",
  "\n",
  "impl Validator for DeviceValidator \x7b\n",
  "    fn validate(&self, root: &dyn ConfigRoot) -> Result<(), ModelError> \x7b\n",
  "        let root = root\n",
  "            .as_any()\n",
  "            .downcast_ref::<DeviceRoot>()\n",
  "            .ok_or_else(|| ModelError::ForeignRoot(MODEL_NAME.to_string()))?;\n",
  "        root.0.validate()\n",
  "    \x7d\n",
  "\x7d\n"]

/-- The one operation that a generated library offers. -/
def plugin : String := String.join [
  "//! Capability entry point for \x7b\x7b model.name | quote \x7d\x7d \x7b\x7b model.version | quote \x7d\x7d.\n",
  "//! Generated, do not edit.\n",
  "\n",
  "use config_model_core::ConfigModel;\n",
  "\n",
  "use super::model::DeviceModel;\n",
  "\n",
  "/// The one operation behind the exported `\x7b\x7b compiler.symbol \x7d\x7d` symbol.\n",
  "pub fn model() -> Box<dyn ConfigModel> \x7b\n",
  "    Box::new(DeviceModel::new())\n",
  "\x7d\n"]

end ModelForge.Source.Defaults
