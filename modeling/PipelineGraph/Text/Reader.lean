namespace PipelineGraph.Text

/-- A reader of the front of a text. It returns what it read and what is left. -/
abbrev Reader (α : Type) := List Char → Option (α × List Char)

end PipelineGraph.Text
