import ServiceTemplates.Definition.Basic
import ServiceTemplates.Json.Block

/-!
# The manifest

The definitions of the kinds that belong to this controller as one text, ready to be
applied to a cluster. The kinds of the service catalog come with the catalog.
-/

namespace ServiceTemplates

/-- The kinds whose definitions the manifest holds, in order. -/
def manifestKinds : List Kind :=
  [.templatedInstance, .templatedBinding, .instanceTemplate, .clusterInstanceTemplate,
    .brokerInstanceTemplate, .bindingTemplate, .clusterBindingTemplate, .brokerBindingTemplate]

def manifestHeader : List String :=
  ["# This file is auto-generated by crdgen",
    "# DO NOT EDIT THIS FILE MANUALLY",
    "# Change the types under src/crd/ instead"]

/-- The document of one kind, with the line that starts it. -/
def manifestDocument (k : Kind) : List String :=
  match k.definition? with
  | some d => "---" :: (d.toJson k).blockLines
  | none => []

def manifest : List String := manifestHeader ++ manifestKinds.flatMap manifestDocument

end ServiceTemplates
