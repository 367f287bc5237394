import ServletFilters.Descriptor
import ServletFilters.Schema.Record

/-!
The records that make up a descriptor, and the reader of descriptors in any format.
-/

namespace ServletFilters.Schema

variable {α : Type} (format : Format α)

def params (v : α) : Except ReadError Params :=
  (format.entries format.text v).map Params.ofList

def dispatchers (v : α) : Except ReadError (List Dispatcher) :=
  format.list format.dispatcher v

def observability : Record α Observability where
  title := "ObservabilityConfig"
  start := {}
  fields := [.of "log_level" format.text fun s r => { r with logLevel := s }]
  required := none

def filter : Record α Registration where
  title := "FilterConfig"
  start := ⟨"", "", Params.empty, false⟩
  fields := [
    .of "name" format.text fun s r => { r with name := s },
    .of "class" format.text fun s r => { r with className := s },
    .of "init_params" (params format) fun p r => { r with initParams := p },
    .of "async_supported" format.boolean fun b r => { r with asyncSupported := b }]
  required := some "name"

def servlet : Record α Servlet where
  title := "ServletConfig"
  start := ⟨"", "", [], false⟩
  fields := [
    .of "name" format.text fun s r => { r with name := s },
    .of "class" format.text fun s r => { r with className := s },
    .of "url_patterns" (format.list format.text) fun ps r => { r with urlPatterns := ps },
    .of "async_supported" format.boolean fun b r => { r with asyncSupported := b }]
  required := some "name"

def mappingEntry : Record α MappingEntry where
  title := "FilterMappingConfig"
  start := ⟨"", [], [], []⟩
  fields := [
    .of "filter" format.text fun s r => { r with filter := s },
    .of "url_patterns" (format.list format.text) fun ps r => { r with urlPatterns := ps },
    .of "servlet_names" (format.list format.text) fun ns r => { r with servletNames := ns },
    .of "dispatcher_types" (dispatchers format) fun ts r => { r with types := ts }]
  required := some "filter"

def descriptor : Record α Descriptor where
  title := "DeploymentConfig"
  start := {}
  fields := [
    .of "observability" ((observability format).read format) fun o r =>
      { r with observability := o },
    .of "filters" (format.list ((filter format).read format)) fun fs r => { r with filters := fs },
    .of "servlets" (format.list ((servlet format).read format)) fun ss r =>
      { r with servlets := ss },
    .of "filter_mappings" (format.list ((mappingEntry format).read format)) fun ms r =>
      { r with mappings := ms }]
  required := none

def readDescriptor (v : α) : Except ReadError Descriptor :=
  (descriptor format).read format v

end ServletFilters.Schema
