import OsAccount.CText

namespace OsAccount.PrivilegeTable

structure PrivilegeBriefDef where
  privilegeName : String
  description : String
  timeout : Nat
  kernelPermission : Option String
deriving DecidableEq, Repr

def timeoutSeconds : Nat := 300

def entry (name description : String) (kernelPermission : Option String) : PrivilegeBriefDef :=
  ⟨name, description, timeoutSeconds, kernelPermission⟩

def privilegeList : List PrivilegeBriefDef :=
  [entry "ohos.privilege.manage_local_accounts" "Manage local accounts" none,
   entry "ohos.privilege.kill_process" "Kill process across users" none,
   entry "ohos.privilege.modify_system_time" "Modify system time" none,
   entry "ohos.privilege.modify_security_settings" "Modify security settings" none,
   entry "ohos.privilege.reset_device" "Reset device" none,
   entry "ohos.privilege.set_secure_shield_mode" "Set Secure Shield Mode" none,
   entry "ohos.privilege.erase_device" "Erase device data and system partitions" none,
   entry "ohos.privilege.manage_domain_account_server_configs" "Manage domain account server configs" none,
   entry "ohos.privilege.format_data_disk" "Formatting data disk" none,
   entry "ohos.privilege.manage_enterprise_device_management_applications"
     "Manage enterprise device management applications" none,
   entry "ohos.privilege.monitor_raw_usb_packets" "Privilege for monitoring the raw usb packets"
     (some "ohos.permission.kernel.USB_CAPTURE"),
   entry "ohos.privilege.operate_raw_net_packets" "Privilege for operating the raw network packets"
     (some "ohos.permission.kernel.NET_RAW"),
   entry "ohos.privilege.set_device_security_level" "Set device security level" none,
   entry "ohos.privilege.manage_global_scope_certificate"
     "Manage certificate in the global scope of a device" none]

def maxPrivilegeSize : Nat := privilegeList.length

/-- The name map is filled in table order and the names are distinct, so the
lookup finds the index of the one entry with that name. -/
def transferPrivilegeToCode (privilegeName : String) : Option Nat :=
  privilegeList.findIdx? fun d => d.privilegeName == privilegeName

def transferCodeToPrivilege (code : Nat) : String :=
  match privilegeList[code]? with
  | none => ""
  | some d => d.privilegeName

def getPrivilegeBriefDef (code : Nat) : Option PrivilegeBriefDef := privilegeList[code]?

def getPrivilegeBriefDefByName (privilege : String) : Option PrivilegeBriefDef :=
  (transferPrivilegeToCode privilege).bind getPrivilegeBriefDef

def kernelPermissionOf (code : Nat) : Option String :=
  (getPrivilegeBriefDef code).bind PrivilegeBriefDef.kernelPermission

theorem transferPrivilegeToCode_transferCodeToPrivilege (code : Nat) (h : code < maxPrivilegeSize) :
    transferPrivilegeToCode (transferCodeToPrivilege code) = some code := by
  have hall : ∀ c : Fin maxPrivilegeSize,
      transferPrivilegeToCode (transferCodeToPrivilege c) = some c.val := by decide +kernel
  exact hall ⟨code, h⟩

theorem noNul_transferCodeToPrivilege (code : Nat) : CText.NoNul (transferCodeToPrivilege code) := by
  unfold transferCodeToPrivilege
  cases h : privilegeList[code]? with
  | none => exact CText.noNul_empty
  | some d =>
      have hall : ∀ d ∈ privilegeList, CText.NoNul d.privilegeName := by
        simp only [privilegeList, entry, List.forall_mem_cons]
        and_intros
        all_goals first | exact CText.noNul_ofList (by decide) | exact nofun
      exact hall d (List.mem_of_getElem? h)

end OsAccount.PrivilegeTable
