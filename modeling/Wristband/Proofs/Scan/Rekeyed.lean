import Wristband.Proofs.Scan.Closing
import Wristband.Proofs.Scan.Written
import Wristband.Proofs.Session.Recognised

/-! A tag whose key was replaced. What a request stores is what the next handshake has its key from:
the pages of an Ultralight-C tag hold the derived key, and those of an Ultralight-AES tag hold the key
twice, once for each slot. So a terminal with the new key is never locked out. -/

namespace Wristband

open Session

namespace SimulatedTag

variable {tag image : SimulatedTag} {key : AuthKey} {slot : KeySlot}

private theorem chip_of_family (authenticates : tag.chip ≠ .ultralight) :
    (tag.family = .ultralight → tag.chip = .ultralightC) ∧
      (tag.family = .ultralightAes → tag.chip = .ultralightAes) := by
  unfold family
  cases chip : tag.chip with
  | ultralight => exact absurd chip authenticates
  | ultralightC => exact ⟨fun _ => rfl, nofun⟩
  | ultralightAes => exact ⟨nofun, fun _ => rfl⟩

private theorem keyAt_store_tdes {secret : Bytes}
    (fits : pageStart Layout.tdesKeyPage + (deriveTdesKey secret).length ≤ tag.memory.length) :
    (tag.store Layout.tdesKeyPage (deriveTdesKey secret)).keyAt Layout.tdesKeyPage =
      deriveTdesKey secret := by
  have found := Bytes.take_drop_overwrite fits
  rwa [length_deriveTdesKey] at found

private theorem keyAt_store_aes {key : Bytes} (sized : key.length = 16)
    (fits : pageStart Layout.aesDataKeyPage + (key ++ key).length ≤ tag.memory.length)
    (stored : slot = .dataProtection ∨ slot = .uidRetrieval) :
    (tag.store Layout.aesDataKeyPage (key ++ key)).keyAt (Layout.aesDataKeyPage + slot.code * 4) =
      key := by
  obtain rfl | rfl := stored
  · have found := Bytes.take_drop_overwrite_part [] key key fits
    rwa [sized] at found
  · have alone : pageStart Layout.aesDataKeyPage + (key ++ key ++ []).length ≤
        tag.memory.length := by rwa [List.append_nil]
    have found := Bytes.take_drop_overwrite_part key key [] alone
    rwa [List.append_nil, sized] at found

/-- A key that has been stored is held, in whichever slot it is looked for. -/
theorem holds_stored (whole : tag.IsWhole) (authenticates : tag.chip ≠ .ultralight)
    (own : key.family = tag.family)
    (rekeyed : slot = .dataProtection ∨ tag.chip = .ultralightAes ∧ slot = .uidRetrieval) :
    (tag.store key.home key.stored).Holds key slot := by
  have fits := stretch_of_family whole own
  obtain ⟨tdes, aes⟩ := chip_of_family authenticates
  cases key with
  | tdes secret =>
    have chip : (tag.store Layout.tdesKeyPage (deriveTdesKey secret.val)).chip = .ultralightC :=
      tdes own.symm
    obtain rfl : slot = .dataProtection := rekeyed.resolve_right fun both => by
      cases both.1.symm.trans (tdes own.symm)
    unfold Holds
    rw [AuthKey.home, AuthKey.stored, chip]
    exact ⟨rfl, keyAt_store_tdes fits⟩
  | aes key =>
    have chip : (tag.store Layout.aesDataKeyPage (key.val ++ key.val)).chip = .ultralightAes :=
      aes own.symm
    unfold Holds
    rw [AuthKey.home, AuthKey.stored, chip]
    exact keyAt_store_aes key.property fits (rekeyed.imp_right And.right)

end SimulatedTag

namespace Session

/-- No request makes a tag without faults leave. -/
theorem persists_ready : Persists fun session : Session SimulatedTag => session.tag.Ready where
  exchange _ _ ready := exchange_leaves fun _ _ exchanged => exchanged.ready ready
  engine _ _ ready := ready
  learn _ _ ready := ready
  random _ _ ready := ready
  reconnect session ready := by
    refine (ensures_reconnect ready).weaken ?_ fun _ _ never => never.elim
    rintro _ _ rfl
    exact ⟨SimulatedTag.hears_of_connected rfl ready.present, ready.faultless⟩

end Session

private theorem serve_present {tag : SimulatedTag} (present : tag.lost = false) (faultless : tag.faults = .none)
    (random : RandomSource) (request : ScanRequest) :
    (serve tag tag.family random request).2.tag.lost = false ∧
      (serve tag tag.family random request).2.tag.faults = .none := by
  have opens := opened_attends present faultless random
  have ready := (persists_ready.execute request _ opens.ready).after
  rw [serve_opened (openOn_eq_opened present tag.family random)]
  exact ⟨ready.present, ready.faultless⟩

/-- A request to replace the key of a tag that reports success has done so. On every later connection
the tag and a terminal with the new key recognise each other, whatever was done in between that left the
memory alone, whatever numbers they draw and with codes or without, in each slot that has the key. -/
theorem new_key_is_accepted_after_success {tag : SimulatedTag} (whole : tag.IsWhole)
    (faultless : tag.faults = .none) (authenticates : tag.chip ≠ .ultralight)
    {random : RandomSource} {key : Option AuthKey} {newKey : AuthKey} {cmac : Bool}
    (done : (serve tag tag.family random (.writeKey key newKey cmac)).1 = .write) :
    let after := (serve tag tag.family random (.writeKey key newKey cmac)).2.tag
    ∀ later : SimulatedTag, later.Resembles after → later.lost = after.lost →
      later.faults = after.faults →
        ∀ slot, slot = .dataProtection ∨ tag.chip = .ultralightAes ∧ slot = .uidRetrieval →
          ∀ codes source, ∃ session final, openOn later later.family source = .ok session ∧
            (authenticate newKey slot codes).run session = (.ok (), final) ∧
            final.isAuthenticated = true ∧ final.tag.isAuthenticated = true := by
  intro after later resembles sameLost sameFaults slot rekeyed codes source
  obtain ⟨written, own, -⟩ := serve_written whole done
  have present : tag.lost = false := present_of_served (by rw [done]; rfl)
  obtain ⟨there, sound⟩ := serve_present present faultless random (.writeKey key newKey cmac)
  have stored := tag.holds_stored whole authenticates own rekeyed
  have held : later.Holds newKey slot := (resembles.trans written).holds stored
  obtain ⟨final, ran, recognised, -⟩ :=
    opened_held (sameLost.trans there) (sameFaults.trans sound) source held codes
  exact ⟨_, final, openOn_eq_opened (sameLost.trans there) later.family source, ran,
    recognised.standing, recognised.alike⟩

/-- The key of zeros is replaced while no page is protected, by a terminal that does not know it. -/
theorem zeroKey_is_replaced :
    let newKey := AuthKey.aes ⟨List.replicate 16 1, rfl⟩
    let after := (serve zeroKeyTag zeroKeyTag.family ⟨fun _ => 0, 0⟩
      (.writeKey none newKey true)).2.tag
    zeroKeyTag.IsWhole ∧ zeroKeyTag.faults = .none ∧ zeroKeyTag.chip = .ultralightAes ∧
      (serve zeroKeyTag zeroKeyTag.family ⟨fun _ => 0, 0⟩ (.writeKey none newKey true)).1 = .write ∧
      ∀ slot, slot = .dataProtection ∨ slot = .uidRetrieval → ∀ codes source, ∃ session final,
        openOn after after.family source = .ok session ∧
          (authenticate newKey slot codes).run session = (.ok (), final) ∧
          final.isAuthenticated = true ∧ final.tag.isAuthenticated = true := by
  intro newKey after
  have whole : zeroKeyTag.IsWhole := (SimulatedTag.isWhole_ultralightAes _ _).withCmac true
  have chip : zeroKeyTag.chip = .ultralightAes := rfl
  have authenticates : zeroKeyTag.chip ≠ .ultralight := by
    rw [chip]
    exact nofun
  have done : (serve zeroKeyTag zeroKeyTag.family ⟨fun _ => 0, 0⟩
      (.writeKey none newKey true)).1 = .write := by decide +kernel
  have accepted := new_key_is_accepted_after_success whole rfl authenticates done after
    ⟨rfl, rfl⟩ rfl rfl
  refine ⟨whole, rfl, chip, done, fun slot rekeyed => ?_⟩
  exact accepted slot (rekeyed.imp_right fun second => ⟨chip, second⟩)

end Wristband
