import ClausePrompt.Form.Field

namespace ClausePrompt

-- A record is made of what its fields give, if all of them give something.
theorem Checked.give_eq_ok_iff {α β : Type} {build : Checked (α → β)} {field : Checked α} {b : β} :
    Checked.give build field = .ok b ↔ ∃ f a, build = .ok f ∧ field = .ok a ∧ f a = b := by
  cases build <;> cases field <;> simp [Checked.give]

namespace Field

variable {α : Type} {read : Reader α} {fields : Fields} {name : String} {a : α}

theorem run_eq_ok_iff {value : Value} : run read name value = .ok a ↔ read value = .ok a := by
  unfold run
  cases read value <;> simp

theorem required_eq_ok_iff :
    required read fields name = .ok a ↔
      ∃ value, fields.lookup name = some value ∧ read value = .ok a := by
  unfold required
  cases fields.lookup name <;> simp [run_eq_ok_iff]

theorem withDefault_eq_ok_iff {default : α} :
    withDefault read default fields name = .ok a ↔
      (∃ value, fields.lookup name = some value ∧ read value = .ok a) ∨
        fields.lookup name = none ∧ default = a := by
  unfold withDefault
  cases fields.lookup name <;> simp [run_eq_ok_iff]

end Field

end ClausePrompt
