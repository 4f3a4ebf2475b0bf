import NeoFS.Netmap.Query.Decode
import NeoFS.Netmap.Query.Encode

set_option autoImplicit false

/- Writing a decoded policy back to the query language. -/
namespace NeoFS.Netmap.Query

-- Three policies that decode, each written to a text that decodes to another policy or does not
-- decode at all: `writeFilterStringTo` puts no parentheses around an `OR` inside an `AND`,
-- writes a quoted key without its quotes, and writes a filter statement of a bare reference,
-- which the visitor has renamed to the statement's name, as `@name` without `AS`.
theorem writeStringTo_breaks_round_trip :
    (decodeString ⟨0, [], [], [], [], none⟩ "REP 1\nFILTER (A EQ 1 OR B EQ 2) AND C EQ 3 AS F" =
        .ok ⟨0, [⟨"F", "", .and, "", [⟨"", "", .or, "", [⟨"", "A", .eq, "1", []⟩, ⟨"", "B", .eq, "2", []⟩]⟩,
          ⟨"", "C", .eq, "3", []⟩]⟩], [], [⟨1, ""⟩], [], none⟩ ∧
      writeStringTo ⟨0, [⟨"F", "", .and, "", [⟨"", "", .or, "", [⟨"", "A", .eq, "1", []⟩, ⟨"", "B", .eq, "2", []⟩]⟩,
          ⟨"", "C", .eq, "3", []⟩]⟩], [], [⟨1, ""⟩], [], none⟩ = "REP 1\nFILTER A EQ 1 OR B EQ 2 AND C EQ 3 AS F" ∧
      decodeString ⟨0, [], [], [], [], none⟩ "REP 1\nFILTER A EQ 1 OR B EQ 2 AND C EQ 3 AS F" =
        .ok ⟨0, [⟨"F", "", .or, "", [⟨"", "A", .eq, "1", []⟩, ⟨"", "", .and, "", [⟨"", "B", .eq, "2", []⟩,
          ⟨"", "C", .eq, "3", []⟩]⟩]⟩], [], [⟨1, ""⟩], [], none⟩) ∧
    (decodeString ⟨0, [], [], [], [], none⟩ "REP 1\nFILTER \"a b\" EQ 1 AS F" =
        .ok ⟨0, [⟨"F", "a b", .eq, "1", []⟩], [], [⟨1, ""⟩], [], none⟩ ∧
      writeStringTo ⟨0, [⟨"F", "a b", .eq, "1", []⟩], [], [⟨1, ""⟩], [], none⟩ = "REP 1\nFILTER a b EQ 1 AS F" ∧
      decodeString ⟨0, [], [], [], [], none⟩ "REP 1\nFILTER a b EQ 1 AS F" = .error (.error .syntaxError)) ∧
    (decodeString ⟨0, [], [], [], [], none⟩ "REP 1\nFILTER A EQ 1 AS G\nFILTER @G AS F" =
        .ok ⟨0, [⟨"G", "A", .eq, "1", []⟩, ⟨"F", "", .unspecified, "", []⟩], [], [⟨1, ""⟩], [], none⟩ ∧
      writeStringTo ⟨0, [⟨"G", "A", .eq, "1", []⟩, ⟨"F", "", .unspecified, "", []⟩], [], [⟨1, ""⟩], [], none⟩ =
        "REP 1\nFILTER A EQ 1 AS G\nFILTER @F" ∧
      decodeString ⟨0, [], [], [], [], none⟩ "REP 1\nFILTER A EQ 1 AS G\nFILTER @F" = .error (.error .syntaxError)) := by
  decide +kernel

end NeoFS.Netmap.Query
