/-
Module: ArcRelay.Proofs.ReplicaWire
Purpose: What crosses the connection as metadata is the record without its payload and labels.
Trusted boundary: as for the messages
-/
import ArcRelay.ClipboardReplication.Wire

namespace ArcRelay.ClipboardReplication

/-- A record as its metadata shows it. -/
def ReplicaRecord.stripped (replica : ReplicaRecord) : ReplicaRecord :=
  { replica with
    record :=
      { replica.record with
        text := none
        html := none
        rtf := none
        imagePng := none
        labels := []
        textSyntax := .plain } }

/-! ### Labels -/

theorem labelFromWire_labelToWire {label received : Label}
    (accepted : labelFromWire (labelToWire label) = .ok received) : received = label := by
  rw [labelFromWire] at accepted
  split at accepted
  · cases accepted
  · exact (Except.ok.inj accepted).symm

/-! ### Metadata -/

theorem kind_fromWire_toWire {kind received : ContentKind}
    (accepted : ContentKind.fromWire kind.toWire = .ok received) : received = kind := by
  cases kind with
  | files => cases accepted
  | _ => exact (Except.ok.inj accepted).symm

theorem changeKind_fromWire_toWire (kind : ChangeKind) :
    ChangeKind.fromWire kind.toWire = .ok kind := by
  cases kind <;> rfl

theorem membershipsFromWire_map {seen : List String} {memberships received : List LabelMembership}
    (accepted : membershipsFromWire seen (memberships.map membershipToWire) = .ok received) :
    received = memberships := by
  induction memberships generalizing seen received with
  | nil => exact (Except.ok.inj accepted).symm
  | cons _ _ ih =>
      rw [List.map_cons, membershipsFromWire] at accepted
      split at accepted
      · cases accepted
      · obtain ⟨others, rest, accepted⟩ := except_bind_ok accepted
        rw [← Except.ok.inj accepted, ih rest]
        rfl

/-- Metadata that is accepted is the record that was sent, stripped. -/
theorem metadataFromWire_metadataToWire {now later : Int} {replica received : ReplicaRecord}
    (accepted : metadataFromWire now later (metadataToWire replica) = .ok received) :
    received = replica.stripped := by
  rw [metadataFromWire, metadataToWire] at accepted
  dsimp only at accepted
  split at accepted
  · cases accepted
  · obtain ⟨memberships, same, accepted⟩ := except_bind_ok accepted
    obtain ⟨kind, sameKind, accepted⟩ := except_bind_ok accepted
    obtain ⟨changeKind, sameChange, accepted⟩ := except_bind_ok accepted
    split at accepted
    · cases accepted
    · rw [changeKind_fromWire_toWire] at sameChange
      rw [← Except.ok.inj accepted, membershipsFromWire_map same, kind_fromWire_toWire sameKind,
        ← Except.ok.inj sameChange]
      rfl

end ArcRelay.ClipboardReplication
