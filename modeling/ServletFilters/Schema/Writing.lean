import ServletFilters.Descriptor

/-!
The value tree that a descriptor is written as: every field under its name, defaults filled in.
-/

namespace ServletFilters.Schema

/-- How the values of one format are made. -/
structure Writer (α : Type) where
  text : String → α
  boolean : Bool → α
  sequence : List α → α
  map : List (String × α) → α

variable {α : Type} (w : Writer α)

def Writer.texts (ss : List String) : α := w.sequence (ss.map w.text)

def writeRegistration (f : Registration) : α :=
  w.map [("name", w.text f.name), ("class", w.text f.className),
    ("init_params", w.map (f.initParams.entries.map fun e => (e.1, w.text e.2))),
    ("async_supported", w.boolean f.asyncSupported)]

def writeServlet (s : Servlet) : α :=
  w.map [("name", w.text s.name), ("class", w.text s.className),
    ("url_patterns", w.texts s.urlPatterns), ("async_supported", w.boolean s.asyncSupported)]

def writeMappingEntry (e : MappingEntry) : α :=
  w.map [("filter", w.text e.filter), ("url_patterns", w.texts e.urlPatterns),
    ("servlet_names", w.texts e.servletNames),
    ("dispatcher_types", w.texts (e.types.map Dispatcher.schemaName))]

def writeDescriptor (d : Descriptor) : α :=
  w.map [("observability", w.map [("log_level", w.text d.observability.logLevel)]),
    ("filters", w.sequence (d.filters.map (writeRegistration w))),
    ("servlets", w.sequence (d.servlets.map (writeServlet w))),
    ("filter_mappings", w.sequence (d.mappings.map (writeMappingEntry w)))]

end ServletFilters.Schema
