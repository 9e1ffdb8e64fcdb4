/-
Reports as lines of JSON.

In this format every report is one line of the standard output, and the error stream stays empty. A
line holds no control characters, so the line feeds of the output are the ends of its lines; and a
line is the text of a JSON object from which the report is read back.

* `Report.plain_toJson`, `Report.ofJson?_toJson`: the object of a report;
* `Report.jsonLine`: its line, with the line feed at the end;
* `cut_output`: the lines of the output;
* `json_lines`: what a reader of the output gets.
-/
import DaemonConsole.Console.Rendering
import DaemonConsole.Proofs.Json.Written
import DaemonConsole.Proofs.Text.Cut
import Mathlib.Data.List.Forall2

namespace DaemonConsole

namespace Report

/-- The object of a report holds texts only. -/
lemma plain_toJson (r : Report) : Json.Plain r.toJson := by
  cases r
  all_goals
    refine .object ?_
    simp [Json.Plain.text]

/-- A report is read back from its object. -/
lemma ofJson?_toJson (r : Report) : ofJson? r.toJson = some r := by
  cases r <;> rfl

/-- The object of a report is read back from its text. -/
lemma parse?_write_toJson (r : Report) : Json.parse? r.toJson.write = some r.toJson :=
  Json.parse?_write r.plain_toJson

/-- The text of a report is printable. -/
lemma printable_write_toJson (r : Report) : Json.Printable r.toJson.write.toList := by
  rw [Json.write, String.toList_ofList]
  exact r.plain_toJson.printable

/-- The line of a report, its end included. -/
def jsonLine (r : Report) : List Char :=
  r.toJson.write.toList ++ ['\n']

/-- A report is known from its line. -/
lemma jsonLine_injective : Function.Injective jsonLine := by
  intro r s h
  have hwrite : r.toJson.write = s.toJson.write :=
    String.toList_inj.mp (List.append_cancel_right h)
  have hjson : some r.toJson = some s.toJson := by
    rw [← parse?_write_toJson, ← parse?_write_toJson, hwrite]
  have hreport : some r = some s := by
    rw [← ofJson?_toJson, ← ofJson?_toJson, Option.some.inj hjson]
  exact Option.some.inj hreport

end Report

namespace Console

/-- The output is cut into the lines of the reports. -/
lemma cut_output (reports : List Report) :
    Text.Cut '\n' (String.join (reports.map (Report.outputText .json))).toList
      (reports.map Report.jsonLine) := by
  induction reports with
  | nil => exact .nil
  | cons r reports ih =>
      have hfeed : '\n' ∉ r.toJson.write.toList := fun hmem =>
        absurd (r.printable_write_toJson '\n' hmem) (by decide)
      have hjoin : (String.join ((r :: reports).map (Report.outputText .json))).toList
          = r.toJson.write.toList
            ++ '\n' :: (String.join (reports.map (Report.outputText .json))).toList := by
        simp [Report.outputText, String.join_cons]
      rw [hjoin]
      exact .cons hfeed ih

/-- **Reports are written as lines of JSON from which they are read back.** Nothing is written to
the error stream. The standard output is a line for each report, in their order; no line holds a
control character, and its JSON is the object of the report, with its kind and all its fields. So no
other reports give the same output. -/
theorem json_lines (reports : List Report) :
    String.join (reports.map (Report.errorText .json)) = "" ∧
    (∃ lines : List String,
      Text.Cut '\n' (String.join (reports.map (Report.outputText .json))).toList
        (lines.map fun line => line.toList ++ ['\n']) ∧
      List.Forall₂
        (fun line r => Json.Printable line.toList ∧ Json.parse? line = some r.toJson ∧
          Report.ofJson? r.toJson = some r)
        lines reports) ∧
    ∀ others : List Report,
      String.join (others.map (Report.outputText .json))
        = String.join (reports.map (Report.outputText .json)) → others = reports := by
  refine ⟨?_, ⟨reports.map fun r => r.toJson.write, ?_, ?_⟩, fun others h => ?_⟩
  · induction reports with
    | nil => rfl
    | cons r reports ih => rw [List.map_cons, String.join_cons, ih]; rfl
  · rw [List.map_map]
    exact cut_output reports
  · rw [List.forall₂_map_left_iff, List.forall₂_same]
    exact fun r _ => ⟨r.printable_write_toJson, r.parse?_write_toJson, r.ofJson?_toJson⟩
  · have hcut := cut_output others
    rw [h] at hcut
    exact Report.jsonLine_injective.list_map (hcut.unique (cut_output reports))

/-- A line feed in a report stays inside its line. -/
example : (Report.output "a\n\"\u0001").toJson.write
    = "\x7b\"kind\":\"output\",\"text\":\"a\\n\\\"\\u0001\"\x7d" := by decide

end Console

end DaemonConsole
