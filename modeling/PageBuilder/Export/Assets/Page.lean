import PageBuilder.Text.Lines
/-! The style sheet and the script of generated pages. -/
namespace PageBuilder.Export.Assets

def stylesheet : String :=
  Text.document [
    "*,",
    "*::before,",
    "*::after \x7b",
    "  box-sizing: border-box;",
    "\x7d",
    "",
    "body \x7b",
    "  margin: 0;",
    "  background: #0f172a;",
    "  color: #e2e8f0;",
    "  font-family: -apple-system, BlinkMacSystemFont, 'Segoe UI', 'Roboto', 'Helvetica Neue', sans-serif;",
    "  -webkit-font-smoothing: antialiased;",
    "  line-height: 1.5;",
    "\x7d",
    "",
    ".container \x7b",
    "  max-width: 1120px;",
    "  margin: 0 auto;",
    "  padding: 32px 16px;",
    "  display: flex;",
    "  flex-direction: column;",
    "  gap: 24px;",
    "\x7d",
    "",
    "section \x7b",
    "  border: 1px solid rgba(51, 65, 85, 0.6);",
    "  border-radius: 16px;",
    "  background: rgba(2, 6, 23, 0.8);",
    "  padding: 24px;",
    "\x7d",
    "",
    ".badge \x7b",
    "  display: inline-block;",
    "  border: 1px solid rgba(16, 185, 129, 0.4);",
    "  background: rgba(16, 185, 129, 0.1);",
    "  color: #a7f3d0;",
    "  border-radius: 9999px;",
    "  padding: 2px 10px;",
    "  font-size: 12px;",
    "  font-weight: 600;",
    "\x7d",
    "",
    ".badge-blue \x7b",
    "  border-color: rgba(96, 165, 250, 0.4);",
    "  background: rgba(59, 130, 246, 0.1);",
    "  color: #bfdbfe;",
    "\x7d",
    "",
    ".hero-title,",
    ".cta-title,",
    ".form-title \x7b",
    "  color: #ffffff;",
    "  margin: 12px 0 8px;",
    "\x7d",
    "",
    ".hero-description,",
    ".cta-description,",
    ".form-description \x7b",
    "  color: #cbd5e1;",
    "  max-width: 42rem;",
    "  margin: 0 0 16px;",
    "\x7d",
    "",
    ".hero-actions,",
    ".cta-actions \x7b",
    "  display: flex;",
    "  flex-wrap: wrap;",
    "  gap: 12px;",
    "\x7d",
    "",
    ".btn \x7b",
    "  border: none;",
    "  border-radius: 8px;",
    "  padding: 10px 16px;",
    "  font-size: 14px;",
    "  font-weight: 500;",
    "  cursor: pointer;",
    "\x7d",
    "",
    ".btn-primary \x7b",
    "  background: #10b981;",
    "  color: #020617;",
    "\x7d",
    "",
    ".btn-primary:hover \x7b",
    "  background: #34d399;",
    "\x7d",
    "",
    ".btn-secondary \x7b",
    "  background: transparent;",
    "  color: #e2e8f0;",
    "\x7d",
    "",
    ".btn-secondary:hover \x7b",
    "  color: #ffffff;",
    "\x7d",
    "",
    ".stats-grid \x7b",
    "  display: grid;",
    "  grid-template-columns: repeat(auto-fit, minmax(200px, 1fr));",
    "  gap: 12px;",
    "\x7d",
    "",
    ".stat-card \x7b",
    "  border: 1px solid rgba(51, 65, 85, 0.6);",
    "  border-radius: 12px;",
    "  padding: 16px;",
    "\x7d",
    "",
    ".stat-label \x7b",
    "  color: #94a3b8;",
    "  font-size: 12px;",
    "  text-transform: uppercase;",
    "  letter-spacing: 0.05em;",
    "\x7d",
    "",
    ".stat-value \x7b",
    "  color: #ffffff;",
    "  font-size: 30px;",
    "  font-weight: 600;",
    "\x7d",
    "",
    ".stat-detail \x7b",
    "  color: #94a3b8;",
    "  font-size: 14px;",
    "\x7d",
    "",
    ".tabs \x7b",
    "  display: inline-flex;",
    "  gap: 4px;",
    "  background: #1e293b;",
    "  border-radius: 8px;",
    "  padding: 4px;",
    "  margin-bottom: 16px;",
    "\x7d",
    "",
    ".tab \x7b",
    "  border: none;",
    "  background: transparent;",
    "  color: #94a3b8;",
    "  border-radius: 6px;",
    "  padding: 6px 12px;",
    "  cursor: pointer;",
    "\x7d",
    "",
    ".tab.active \x7b",
    "  background: #0f172a;",
    "  color: #ffffff;",
    "\x7d",
    "",
    ".stage-title \x7b",
    "  color: #ffffff;",
    "  margin: 0 0 8px;",
    "\x7d",
    "",
    ".stage-description \x7b",
    "  color: #cbd5e1;",
    "\x7d",
    "",
    ".stage-tags \x7b",
    "  display: flex;",
    "  flex-wrap: wrap;",
    "  gap: 8px;",
    "  border-top: 1px solid rgba(51, 65, 85, 0.6);",
    "  padding-top: 12px;",
    "\x7d",
    "",
    ".tag \x7b",
    "  border: 1px solid #334155;",
    "  background: rgba(30, 41, 59, 0.7);",
    "  border-radius: 9999px;",
    "  padding: 2px 10px;",
    "  font-size: 12px;",
    "\x7d",
    "",
    ".feedback-form \x7b",
    "  display: flex;",
    "  flex-direction: column;",
    "  gap: 16px;",
    "\x7d",
    "",
    ".form-field \x7b",
    "  display: flex;",
    "  flex-direction: column;",
    "  gap: 8px;",
    "\x7d",
    "",
    ".form-field input,",
    ".form-field textarea \x7b",
    "  border: 1px solid #1e293b;",
    "  border-radius: 8px;",
    "  background: #020617;",
    "  color: #ffffff;",
    "  padding: 8px 12px;",
    "  font: inherit;",
    "\x7d",
    "",
    ".data-preview \x7b",
    "  margin-top: 16px;",
    "  border: 1px solid rgba(51, 65, 85, 0.6);",
    "  border-radius: 12px;",
    "  padding: 16px;",
    "  font-size: 12px;",
    "\x7d",
    "",
    ".data-preview-label \x7b",
    "  margin: 0 0 8px;",
    "  color: #e2e8f0;",
    "  font-weight: 500;",
    "\x7d",
    "",
    ".data-preview-json \x7b",
    "  max-height: 160px;",
    "  overflow: auto;",
    "  white-space: pre-wrap;",
    "  color: #a7f3d0;",
    "  margin: 0;",
    "\x7d",
    "",
    ".unknown-block \x7b",
    "  border-style: dashed;",
    "  border-color: rgba(245, 158, 11, 0.6);",
    "  color: #fde68a;",
    "\x7d"]

/-- Lets the tabs of every workflow switch its stages; the first one starts visible. -/
def tabScript : String :=
  Text.document [
    "document.addEventListener('DOMContentLoaded', () => \x7b",
    "  document.querySelectorAll('.workflow-block').forEach((block) => \x7b",
    "    const tabs = block.querySelectorAll('.tab');",
    "    const stages = block.querySelectorAll('.workflow-stage');",
    "",
    "    stages.forEach((stage, index) => \x7b",
    "      stage.style.display = index === 0 ? 'block' : 'none';",
    "    \x7d);",
    "",
    "    tabs.forEach((tab, index) => \x7b",
    "      tab.addEventListener('click', () => \x7b",
    "        tabs.forEach((t) => t.classList.remove('active'));",
    "        tab.classList.add('active');",
    "        stages.forEach((s) => \x7b",
    "          s.style.display = 'none';",
    "        \x7d);",
    "        if (stages[index]) \x7b",
    "          stages[index].style.display = 'block';",
    "        \x7d",
    "      \x7d);",
    "    \x7d);",
    "  \x7d);",
    "\x7d);"]

end PageBuilder.Export.Assets
