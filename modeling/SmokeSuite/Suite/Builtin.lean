import SmokeSuite.Suite.Basic

namespace SmokeSuite.Suite

def builtinTools : List String :=
  ["acyclic", "bcomps", "ccomps", "circo", "cluster", "diffimg", "dijkstra", "dot", "dot2gxl",
    "dot_builtins", "dotty", "edgepaint", "fdp", "gc", "gml2gv", "graphml2gv", "gv2gml", "gv2gxl",
    "gvcolor", "gvedit", "gvgen", "gvmap", "gvmap.sh", "gvpack", "gvpr", "gxl2dot", "gxl2gv",
    "lneato", "mingle", "mm2gv", "neato", "nop", "osage", "patchwork", "prune", "sccmap", "sfdp",
    "smyrna", "tred", "twopi", "unflatten", "vimdot"]

def builtinExclusions : List Exclusion :=
  [{ condition := { osId := some "ubuntu" }
     tools := ["mingle"]
     issues := [1835]
     reason := "mingle is not built for \x7bos_id\x7d (#1835)" },
   { condition := { osId := some "centos" }
     tools := ["smyrna"]
     issues := [1834]
     reason := "smyrna is not built for Centos (#1834)" },
   { condition := { buildSystem := some "cmake" }
     tools := ["cluster", "diffimg", "dot_builtins", "dotty", "edgepaint", "gv2gxl", "gvedit",
       "gvmap", "gvmap.sh", "gxl2dot", "lneato", "mingle", "prune", "smyrna", "vimdot"]
     issues := [1753, 1836]
     reason := "\x7btool\x7d is not built with CMake (#1753 & #1836)" },
   { condition := { buildSystem := some "msbuild" }
     tools := ["cluster", "dot2gxl", "dot_builtins", "gv2gxl", "gvedit", "gvmap.sh", "gxl2dot",
       "vimdot"]
     issues := [1837]
     reason := "\x7btool\x7d is not built with MSBuild (#1837)" },
   { condition := { buildSystem := some "autotools", system := some .darwin }
     tools := ["mingle", "smyrna"]
     issues := [1854]
     reason := "\x7btool\x7d is not built with autotools on macOS (#1854)" }]

def builtinFormats : List FormatTarget :=
  [{ format := "png:gd"
     issue := some 1786
     xfail := some
      { condition :=
          { buildSystem := some "cmake", notSystem := some .linux, asan := some false }
        reason := "png:gd unavailable when built with CMake" } },
   { format := "svgz", issue := some 1855 }]

def builtin : Suite where
  tools := builtinTools
  exclusions := builtinExclusions
  formats := builtinFormats
  asanJobs := ["ubuntu21.04-cmake-ASan-test-including-ctest",
    "ubuntu21.10-cmake-ASan-test-including-ctest"]

def builtinText : String :=
  "# Tools every complete Graphviz installation is expected to put on PATH.
tools:
  - acyclic
  - bcomps
  - ccomps
  - circo
  - cluster
  - diffimg
  - dijkstra
  - dot
  - dot2gxl
  - dot_builtins
  - dotty
  - edgepaint
  - fdp
  - gc
  - gml2gv
  - graphml2gv
  - gv2gml
  - gv2gxl
  - gvcolor
  - gvedit
  - gvgen
  - gvmap
  - gvmap.sh
  - gvpack
  - gvpr
  - gxl2dot
  - gxl2gv
  - lneato
  - mingle
  - mm2gv
  - neato
  - nop
  - osage
  - patchwork
  - prune
  - sccmap
  - sfdp
  - smyrna
  - tred
  - twopi
  - unflatten
  - vimdot

# Known gaps. First matching rule wins; a matched tool must be absent.
exclusions:
  - when:
      os_id: ubuntu
    tools: [mingle]
    issues: [1835]
    reason: \"mingle is not built for \x7bos_id\x7d (#1835)\"

  - when:
      os_id: centos
    tools: [smyrna]
    issues: [1834]
    reason: \"smyrna is not built for Centos (#1834)\"

  - when:
      build_system: cmake
    tools:
      - cluster
      - diffimg
      - dot_builtins
      - dotty
      - edgepaint
      - gv2gxl
      - gvedit
      - gvmap
      - gvmap.sh
      - gxl2dot
      - lneato
      - mingle
      - prune
      - smyrna
      - vimdot
    issues: [1753, 1836]
    reason: \"\x7btool\x7d is not built with CMake (#1753 & #1836)\"

  - when:
      build_system: msbuild
    tools:
      - cluster
      - dot2gxl
      - dot_builtins
      - gv2gxl
      - gvedit
      - gvmap.sh
      - gxl2dot
      - vimdot
    issues: [1837]
    reason: \"\x7btool\x7d is not built with MSBuild (#1837)\"

  - when:
      build_system: autotools
      system: Darwin
    tools: [mingle, smyrna]
    issues: [1854]
    reason: \"\x7btool\x7d is not built with autotools on macOS (#1854)\"

formats:
  - format: \"png:gd\"
    issue: 1786
    xfail:
      when:
        build_system: cmake
        not_system: Linux
        asan: false
      reason: \"png:gd unavailable when built with CMake\"
      strict: true

  - format: svgz
    issue: 1855

asan_jobs:
  - ubuntu21.04-cmake-ASan-test-including-ctest
  - ubuntu21.10-cmake-ASan-test-including-ctest
"

end SmokeSuite.Suite
