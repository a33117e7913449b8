import Vitae.Json.Value
import Vitae.Text.Wrap

/-! The bar chart of skills, as the drawing library in the browser takes it. The lines of
each bar's tooltip are laid out here, since the browser cannot be sent a function to do
it. -/

namespace Vitae

/-- A skill and how well it is mastered, in percent. -/
structure Skill where
  name : String
  level : Nat
deriving DecidableEq, Repr

/-- The skills that the page shows, in their order. -/
def aiSkills : List Skill :=
  [⟨"Generative AI", 90⟩, ⟨"LLMs (GPT, Claude, Gemini)", 95⟩, ⟨"NLP", 80⟩,
   ⟨"Prompt Engineering", 95⟩, ⟨"Applied AI Prototyping", 85⟩,
   ⟨"Responsible AI Practices", 80⟩]

structure Chart where
  label : String
  skills : List Skill
deriving DecidableEq, Repr

namespace Chart

/-- The chart of the page's own skills. -/
def ai : Chart := ⟨"AI Skill Focus", aiSkills⟩

/-- The longest tooltip line, in characters. -/
def tooltipLimit : Nat := 30

/-- What a bar's tooltip says: the label, unless it is empty, and the level, if there is
one. -/
def tooltip (label : String) (level : Option Nat) : String :=
  let named := if label = "" then "" else label ++ ": "
  match level with
  | none => named
  | some percent => named ++ toString percent ++ "% Expertise"

def tooltipLines (chart : Chart) : List (List String) :=
  chart.skills.map fun skill =>
    Text.wrap (tooltip chart.label (some skill.level)) tooltipLimit

/-- The configuration to draw the chart from. -/
def toJson (chart : Chart) : Json :=
  let dataset := Json.record
    [("label", .text chart.label),
     ("data", .list (chart.skills.map fun skill => .number skill.level)),
     ("backgroundColor", .text "rgba(13, 148, 136, 0.6)"),
     ("borderColor", .text "rgba(13, 148, 136, 1)"),
     ("borderWidth", .number 1)]
  let levels := Json.record
    [("beginAtZero", .bool true),
     ("max", .number 100),
     ("grid", .record [("color", .text "rgba(0, 0, 0, 0.05)")])]
  let names := Json.record [("grid", .record [("display", .bool false)])]
  .record
    [("type", .text "bar"),
     ("data", .record
       [("labels", .texts (chart.skills.map Skill.name)),
        ("datasets", .list [dataset])]),
     ("options", .record
       [("indexAxis", .text "y"),
        ("responsive", .bool true),
        ("maintainAspectRatio", .bool false),
        ("scales", .record [("x", levels), ("y", names)]),
        ("plugins", .record
          [("legend", .record [("display", .bool false)]),
           ("tooltip", .record [("lines", .list (chart.tooltipLines.map .texts))])])])]

end Chart

end Vitae
