import NodeConsole.Panel.Node

/-!
# Downloads

The panel of the downloader. A size that no 64-bit number can hold cannot be shown.
-/

namespace NodeConsole.Panel

open NodeConsole.Paint NodeConsole.Wire NodeConsole.Text

/-- The panel of the downloader. -/
def downloader : Option DownloadStatus → Except SizeOutOfRange Panel
  | none => .ok (empty "Downloader" "No downloads")
  | some status => do
    let current ← humanBytes status.currentSize
    let total ← humanBytes status.totalSize
    let failed := status.error.isError
    pure (keyValues "Downloader" (if failed then .error else .ok)
      ([("Name", orDash status.name), ("State", status.state.label),
        ("Progress", decimal status.progress ++ "%"), ("Size", current ++ " / " ++ total),
        ("Modified", timeOrNever status.modTime)] ++
        if failed then [("Error", status.error.error)] else []))

end NodeConsole.Panel
