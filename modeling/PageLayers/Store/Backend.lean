import PageLayers.Files.Tree
import PageLayers.Store.Directory
import PageLayers.Store.Memory

/-! The two kinds of store behind one type. -/

namespace PageLayers

inductive LayerStore where
  | memory (s : MemoryStore)
  | directory (s : DirectoryStore) (files : FileTree)

namespace LayerStore

/-- A store in a directory of a file tree; the directory is made where it is missing. -/
def inDirectory (s : DirectoryStore) (files : FileTree) : LayerStore :=
  directory s (files.run s.start.run).2

def answer : (c : StoreCall) → LayerStore → Except StoreError c.Result × LayerStore
  | c, memory s =>
    let (r, s) := MemoryStore.answer c s
    (r, memory s)
  | c, directory s files =>
    let (r, files) := files.run (s.answer c)
    (r, directory s files)

def run {ε α : Type} (store : LayerStore) (p : ExceptT ε StoreProgram α) :
    Except ε α × LayerStore :=
  Program.runOn (I := storeInterface) answer p.run store

end LayerStore

end PageLayers
