import HostSetup.Setup.Basic

/-!
The setup that is used when none is given: what is needed to build a C module and to run the tests
of its flows, which are written in Python.
-/
namespace HostSetup.Setup

/-- Installed in place of the package that the release does not have. -/
def coveragePackage : String := "https://pkgs.dyn.su/el8/base/x86_64/lcov-1.14-3.el8.noarch.rpm"

def builtinSteps : List Plan.Step := [
  ("common-first", .pipInstall (.one "wheel")),
  ("common-first", .pipInstall (.one "setuptools --upgrade")),
  ("common-first", .install (.one "git jq curl")),
  ("common-first", .run (.one "{readies}/bin/getgcc")),
  ("redhat-compat", .install (.one "redhat-lsb-core")),
  ("redhat-compat", .run (.one "{readies}/bin/getepel")),
  ("fedora", .install (.one "python3-networkx")),
  ("macos", .install (.many ["make", "coreutils", "findutils", "gnu-sed", "gnu-tar", "gawk"])),
  ("common-last", (Action.install (.one "lcov")).when (.distroIsNot "arch")),
  ("common-last", ((Action.install (.one "lcov-git")).withOption .fromAur).when (.distroIs "arch")),
  ("common-last", .run (.one "{python} {readies}/bin/getrmpytools")),
  ("common-last", .pipInstall (.one "-r tests/flow/requirements.txt"))]

def builtin : Setup :=
  (builtinSteps.foldl (fun c step => c.add step.1 step.2) ({} : Setup)).addOverride
    ⟨"centos", "8", "lcov", coveragePackage⟩

end HostSetup.Setup
